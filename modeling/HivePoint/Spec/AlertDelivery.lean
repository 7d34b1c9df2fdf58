import HivePoint.ForStd.Reminder
import HivePoint.Spec.AlertStates

/-!
# What the targets are told

Of an alert and a target, a cycle reads and writes one row, and the delivery is a notifier that
remembers this row. A completed cycle is one step of the notifier.

## Key results

- `sat_deliverToTarget`: a notification and its record, whichever statements are refused
- `sat_syncWithLease_told`: what a completed cycle tells each target about each alert
-/

namespace HivePoint

open Prog

/-! ### The row of a target as a memo -/

def OperationalAlertDeliveryTargetState.memo (row : OperationalAlertDeliveryTargetState) :
    Reminder.Memo String :=
  ⟨row.fingerprint, row.resolvedAt.isSome, row.lastDeliveredAt⟩

/-- What is remembered of the alert and the target `p`. -/
def AlertWorld.memo (w : AlertWorld) (p : AlertKind × String) : Option (Reminder.Memo String) :=
  (w.targetStates.find? p).map (·.memo)

/-- The code's decision is that of the reminder. -/
private theorem shouldSendNotification_eq_due (cooldownSeconds : Nat)
    (row : Option OperationalAlertDeliveryTargetState) (fingerprint : String) (now : Int) :
    shouldSendNotification cooldownSeconds (row.map (·.record)) fingerprint now =
      Reminder.due (cooldownSeconds * 1000) (row.map (·.memo)) fingerprint now := by
  cases row with
  | none => rfl
  | some row =>
    obtain ⟨_, _, rowFingerprint, resolvedAt, lastDeliveredAt, _, _, _, _⟩ := row
    cases resolvedAt with
    | some t => rfl
    | none =>
      by_cases hf : rowFingerprint = fingerprint
      · cases lastDeliveredAt <;>
          simp [shouldSendNotification, Reminder.due, OperationalAlertDeliveryTargetState.record,
            OperationalAlertDeliveryTargetState.memo, hf]
      · simp [shouldSendNotification, Reminder.due, OperationalAlertDeliveryTargetState.record,
          OperationalAlertDeliveryTargetState.memo, hf]

/-- The code's label is that of the reminder. -/
private theorem isReminder_eq_reminds (row : Option OperationalAlertDeliveryTargetState)
    (fingerprint : String) :
    isReminder (row.map (·.record)) fingerprint =
      Reminder.reminds (row.map (·.memo)) fingerprint := by
  cases row with
  | none => rfl
  | some row =>
    obtain ⟨_, _, rowFingerprint, resolvedAt, lastDeliveredAt, _, _, _, _⟩ := row
    cases resolvedAt <;> rfl

/-- A write to the row of a pair sets its memo. -/
private theorem memo_of_writesTargetState {kind : AlertKind} {targetKey : String}
    {row : OperationalAlertDeliveryTargetState} {w w' : AlertWorld}
    (h : WritesTargetState kind targetKey row w w') :
    w'.notifications = w.notifications ∧
      ∀ p, w'.memo p = if p = (kind, targetKey) then some row.memo else w.memo p := by
  obtain ⟨states, rfl, hfind⟩ := h
  refine ⟨rfl, fun p => ?_⟩
  rw [AlertWorld.memo, hfind]
  split <;> rfl

/-! ### A notification and its record -/

variable {permits : AlertEnv → AlertWorld → Prop} {api : UrlApi} {sha256 : Text → String}
  {config : AlertDeliveryConfig} {w : AlertWorld}

/-- Nothing is written about the targets, and nothing is sent. -/
structure Silent (w w' : AlertWorld) : Prop where
  targetStates : w'.targetStates = w.targetStates
  notifications : w'.notifications = w.notifications

/-- Nothing is told between a state and itself. -/
theorem Silent.refl (w : AlertWorld) : Silent w w := ⟨rfl, rfl⟩

/-- The memos stay when nothing is told. -/
theorem Silent.memo {w w' : AlertWorld} (h : Silent w w') (p : AlertKind × String) :
    w'.memo p = w.memo p := by
  rw [AlertWorld.memo, h.targetStates, AlertWorld.memo]

/-- The state of an alert is another table. -/
private theorem WritesState.silent {kind : AlertKind} {row : Option OperationalAlertState}
    {w w' : AlertWorld} (h : WritesState kind row w w') : Silent w w' := by
  obtain ⟨states, rfl, -⟩ := h
  exact ⟨rfl, rfl⟩

/-- Marking the alert delivered tells nothing. -/
private theorem sat_markDeliverySuccess_silent (kind : AlertKind) (now : Int) (w : AlertWorld) :
    (markDeliverySuccess kind now).Sat (alertContract permits) (fun _ w' => Silent w w') w := by
  unfold markDeliverySuccess
  refine sat_updateState ?_ (fun _ _ _ hw => hw.silent) (fun _ => Silent.refl w) fun _ _ _ _ =>
    Silent.refl w
  exact fun _ => rfl

/-- Marking its delivery failed tells nothing. -/
private theorem sat_markDeliveryFailure_silent (kind : AlertKind) (now : Int) (error : Err)
    (w : AlertWorld) :
    (markDeliveryFailure kind now error).Sat (alertContract permits)
    (fun _ w' => Silent w w') w := by
  unfold markDeliveryFailure
  refine sat_updateState ?_ (fun _ _ _ hw => hw.silent) (fun _ => Silent.refl w) fun _ _ _ _ =>
    Silent.refl w
  exact fun _ => rfl

/-- The alert is sent, or the request fails. -/
private theorem sat_sendAlert (target : AlertDeliveryTarget) (alert : OperationalAlert)
    (firstObservedAt now : Int) (isReminder : Bool) (w : AlertWorld) :
    (sendAlert api config target alert firstObservedAt now isReminder).Sat (alertContract permits)
      (fun r w' => w'.targetStates = w.targetStates ∧ ∃ delivered : Bool,
        (r = .ok () ↔ delivered = true) ∧ w'.notifications =
          ⟨target.key, alert, firstObservedAt, now, isReminder, delivered⟩ ::
            w.notifications) w := by
  refine (sat_bind _ _ _ w).mpr ((sat_attempt _ w).mpr ?_)
  refine (sat_zoom_sameAlerts AlertWorld.netLens (fun _ _ => ⟨rfl, rfl, rfl, rfl⟩) _ _ _).mono
    fun result w₁ h₁ => ?_
  refine (sat_bind _ _ _ w₁).mpr ((sat_stmt _ w₁).mpr fun w₂ hw₂ _ _ => ⟨trivial, ?_⟩)
  obtain rfl : w₁ = w₂ := hw₂
  cases result with
  | ok a => exact ⟨h₁.targetStates, true, by simp, congrArg (_ :: ·) h₁.notifications⟩
  | error e => exact ⟨h₁.targetStates, false, by simp, congrArg (_ :: ·) h₁.notifications⟩

/-- The deliveries of the alert and the target `p` are recorded. -/
def RecordsDeliveries (permits : AlertEnv → AlertWorld → Prop) (p : AlertKind × String) : Prop :=
  ∀ env w, permits env w → env.refuses (.markTargetDeliverySuccess p.1 p.2) = none

section Record

variable {kind : AlertKind} {target : AlertDeliveryTarget} {fingerprint : String} {now : Int}

/-- The success is remembered with the fingerprint and the time. -/
private theorem sat_markTargetDeliverySuccess_memo (w : AlertWorld) :
    (markTargetDeliverySuccess kind target fingerprint now).Sat (alertContract permits)
      (fun r w' => w'.notifications = w.notifications ∧ ∃ recorded : Bool,
        (r = .ok () ↔ recorded = true) ∧
        (RecordsDeliveries permits (kind, target.key) → recorded = true) ∧
        ∀ p, w'.memo p = if p = (kind, target.key) ∧ recorded = true then
          some ⟨fingerprint, false, some now⟩ else w.memo p) w := by
  unfold markTargetDeliverySuccess
  refine sat_upsertTargetState ?_ (fun w' hw => ?_) fun env m hpermits hm => ?_
  · exact fun _ => rfl
  · obtain ⟨hsame, hmemo⟩ := memo_of_writesTargetState hw
    refine ⟨hsame, true, by simp, fun _ => rfl, fun p => ?_⟩
    rw [hmemo]
    simp only [and_true]
    cases w.targetStates.find? (kind, target.key) <;> rfl
  · refine ⟨rfl, false, by simp, fun hrecords => ?_, fun p => by simp⟩
    exact nomatch (hrecords env w hpermits).symm.trans hm

/-- So is the failure. -/
private theorem sat_markTargetDeliveryFailure_memo (error : Err) (w : AlertWorld) :
    (markTargetDeliveryFailure kind target fingerprint now error).Sat (alertContract permits)
      (fun r w' => ∀ u, r = .ok u → w'.notifications = w.notifications ∧
        ∀ p, w'.memo p = if p = (kind, target.key) then
          some ⟨fingerprint, false, (w.memo p).bind (·.lastDelivered)⟩ else w.memo p) w := by
  unfold markTargetDeliveryFailure
  refine sat_upsertTargetState ?_ (fun w' hw _ _ => ?_) fun _ _ _ _ _ hr => nomatch hr
  · exact fun _ => rfl
  · obtain ⟨hsame, hmemo⟩ := memo_of_writesTargetState hw
    refine ⟨hsame, fun p => ?_⟩
    rw [hmemo]
    split
    · rename_i hp
      rw [AlertWorld.memo, hp]
      cases w.targetStates.find? (kind, target.key) <;> rfl
    · rfl

end Record

/-- The notification of `alert` to `target` has been sent, and `memo` is remembered of it. -/
structure Told (alert : OperationalAlert) (target : AlertDeliveryTarget) (firstObservedAt now : Int)
    (isReminder delivered : Bool) (memo : Option (Reminder.Memo String)) (w w' : AlertWorld) :
    Prop where
  notifications : w'.notifications =
    ⟨target.key, alert, firstObservedAt, now, isReminder, delivered⟩ :: w.notifications
  memo : ∀ p, w'.memo p = if p = (alert.kind, target.key) then memo else w.memo p

/-- A delivery that is recorded has been accepted; one that has been accepted may go unrecorded if
    the database refuses. -/
structure Recorded (permits : AlertEnv → AlertWorld → Prop) (p : AlertKind × String)
    (delivered recorded : Bool) : Prop where
  accepted : recorded = true → delivered = true
  records : RecordsDeliveries permits p → delivered = true → recorded = true

/-- One notification and its record. -/
def ToldOnce (permits : AlertEnv → AlertWorld → Prop) (alert : OperationalAlert)
    (target : AlertDeliveryTarget) (firstObservedAt now : Int) (isReminder : Bool)
    (fingerprint : String) (w w' : AlertWorld) : Prop :=
  ∃ delivered recorded, Recorded permits (alert.kind, target.key) delivered recorded ∧
    Told alert target firstObservedAt now isReminder delivered
      (some (Reminder.notified (w.memo (alert.kind, target.key)) fingerprint now recorded)) w w'

section Notification

variable {alert : OperationalAlert} {target : AlertDeliveryTarget} {firstObservedAt now : Int}
  {isReminder : Bool} {fingerprint : String}

/-- The `catch` clause. The delivery may have been recorded before a statement was refused. -/
private theorem sat_recordFailure {delivered recorded : Bool}
    (hrecorded : Recorded permits (alert.kind, target.key) delivered recorded) (error : Err)
    {w w₁ : AlertWorld} (h₁ : Told alert target firstObservedAt now isReminder delivered
      (if recorded then some ⟨fingerprint, false, some now⟩ else w.memo (alert.kind, target.key)) w
        w₁) :
    (do
      Prog.both (markDeliveryFailure alert.kind now error)
        (markTargetDeliveryFailure alert.kind target fingerprint now error)
      return false : AlertOp Bool).Sat (alertContract permits) (fun r w' => ∀ b, r = .ok b →
        ToldOnce permits alert target firstObservedAt now isReminder fingerprint w w') w₁ := by
  refine (sat_bind _ _ _ w₁).mpr ((sat_both _ _ w₁).mpr ?_)
  -- both rows are written, if the database executes the writes
  refine (sat_markDeliveryFailure_silent alert.kind now error w₁).mono fun r₂ w₂ h₂ => ?_
  refine (sat_markTargetDeliveryFailure_memo error w₂).mono fun r₃ w₃ h₃ => ?_
  cases r₂ with
  | error e => exact fun b hr => nomatch hr
  | ok _ =>
    cases r₃ with
    | error e => exact fun b hr => nomatch hr
    | ok u =>
      obtain ⟨hsame, hmemo⟩ := h₃ u rfl
      refine fun b _ => ⟨delivered, recorded, hrecorded,
        -- the memo of the pair is the one of this attempt, or the old one
        hsame.trans (h₂.notifications.trans h₁.notifications), fun p => ?_⟩
      rw [hmemo, h₂.memo, h₁.memo]
      by_cases hp : p = (alert.kind, target.key)
      · rw [if_pos hp, if_pos hp, if_pos hp, Reminder.notified]
        cases recorded <;> rfl
      · rw [if_neg hp, if_neg hp, if_neg hp]

/-- One notification: whether it is delivered, and whether that is recorded. -/
theorem sat_deliverToTarget (targetState : Option OperationalAlertDeliveryTargetState)
    (w : AlertWorld) :
    (deliverToTarget api sha256 config alert firstObservedAt now targetState target).Sat
      (alertContract permits) (fun r w' => ∀ b, r = .ok b →
        ToldOnce permits alert target firstObservedAt now
          (HivePoint.isReminder (targetState.map (·.record)) (buildFingerprint sha256 alert))
          (buildFingerprint sha256 alert) w w') w := by
  unfold deliverToTarget
  dsimp only
  refine (sat_tryCatch _ _ w).mpr ((sat_bind _ _ _ w).mpr ?_)
  refine (sat_sendAlert target alert firstObservedAt now _ w).mono fun r₁ w₁ h₁ => ?_
  obtain ⟨hstates, delivered, hdelivered, hsent⟩ := h₁
  have hmemo₁ : ∀ p, w₁.memo p = w.memo p := fun p => by
    rw [AlertWorld.memo, hstates, AlertWorld.memo]
  cases r₁ with
  | error error =>
    obtain rfl : delivered = false := Bool.eq_false_iff.mpr fun hd => nomatch hdelivered.mpr hd
    have hrecorded : Recorded permits (alert.kind, target.key) false false :=
      ⟨id, fun _ hd => nomatch hd⟩
    refine sat_recordFailure hrecorded error ⟨hsent, fun p => ?_⟩
    rw [hmemo₁]
    split
    · rename_i hp
      rw [hp]
      rfl
    · rfl
  | ok _ =>
    obtain rfl : delivered = true := hdelivered.mp rfl
    refine (sat_bind _ _ _ w₁).mpr ((sat_both _ _ w₁).mpr ?_)
    refine (sat_markDeliverySuccess_silent alert.kind now w₁).mono fun r₂ w₂ h₂ => ?_
    refine (sat_markTargetDeliverySuccess_memo w₂).mono fun r₃ w₃ h₃ => ?_
    obtain ⟨hsame, recorded, hr₃, hrecords, hmemo⟩ := h₃
    have htold : Told alert target firstObservedAt now
        (HivePoint.isReminder (targetState.map (·.record)) (buildFingerprint sha256 alert)) true
        (if recorded then some ⟨buildFingerprint sha256 alert, false, some now⟩
          else w.memo (alert.kind, target.key)) w w₃ := by
      refine ⟨hsame.trans (h₂.notifications.trans hsent), fun p => ?_⟩
      rw [hmemo, h₂.memo, hmemo₁]
      by_cases hp : p = (alert.kind, target.key)
      · cases recorded <;> simp [hp]
      · simp [hp]
    have hrecorded : Recorded permits (alert.kind, target.key) true recorded :=
      ⟨fun _ => rfl, fun h _ => hrecords h⟩
    -- a refused statement makes a failure of a delivered notification
    cases r₂ with
    | error e => exact sat_recordFailure hrecorded e htold
    | ok _ =>
      cases r₃ with
      | error e => exact sat_recordFailure hrecorded e htold
      | ok _ =>
        obtain rfl : recorded = true := hr₃.mp rfl
        exact fun b _ => ⟨true, true, hrecorded, htold⟩

end Notification

/-! ### One alert and one target -/

/-- The notification is one of the alert and the target `p`. -/
def Notification.isFor (p : AlertKind × String) (n : Notification) : Bool :=
  n.alert.kind = p.1 && n.targetKey = p.2

/-- From `w` to `w'` the notifications `own` have been sent of `p`, and `memo` is remembered now. -/
structure Tells (p : AlertKind × String) (memo : Option (Reminder.Memo String))
    (own : List Notification) (w w' : AlertWorld) : Prop where
  memo : w'.memo p = memo
  sent : ∃ sent, w'.notifications = sent ++ w.notifications ∧ sent.filter (·.isFor p) = own

variable {p : AlertKind × String} {memo memo' : Option (Reminder.Memo String)}
  {own own' : List Notification}

/-- When nothing is told, nothing is told to the pair. -/
theorem Silent.tells {w w' : AlertWorld} (h : Silent w w') : Tells p (w.memo p) [] w w' :=
  ⟨h.memo p, [], h.notifications, rfl⟩

/-- What is told to a pair in two parts. -/
theorem Tells.trans {w₁ w₂ w₃ : AlertWorld} (h : Tells p memo own w₁ w₂)
    (h' : Tells p memo' own' w₂ w₃) : Tells p memo' (own' ++ own) w₁ w₃ := by
  obtain ⟨-, sent, hsent, rfl⟩ := h
  obtain ⟨hmemo, sent', hsent', rfl⟩ := h'
  exact ⟨hmemo, sent' ++ sent, by rw [hsent', hsent, List.append_assoc], List.filter_append ..⟩

/-- Nothing about `p`, and then something. -/
theorem Tells.after {w₁ w₂ w₃ : AlertWorld} (h : Tells p (w₁.memo p) [] w₁ w₂)
    (h' : Tells p memo own w₂ w₃) : Tells p memo own w₁ w₃ := by
  have htrans := h.trans h'
  rwa [List.append_nil] at htrans

/-- A later part that tells the pair nothing. -/
private theorem Tells.then_nothing {w₁ w₂ w₃ : AlertWorld} (h : Tells p memo own w₁ w₂)
    (h' : Tells p (w₂.memo p) [] w₂ w₃) : Tells p memo own w₁ w₃ := by
  have htrans := h.trans h'
  rwa [List.nil_append, h.memo] at htrans

/-- What is told to one pair is not told to another. -/
private theorem Told.tells_other {alert : OperationalAlert} {target : AlertDeliveryTarget}
    {firstObservedAt now : Int} {isReminder delivered : Bool} {w w' : AlertWorld}
    (h : Told alert target firstObservedAt now isReminder delivered memo w w')
    (hp : p ≠ (alert.kind, target.key)) : Tells p (w.memo p) [] w w' := by
  refine ⟨(h.memo p).trans (if_neg hp), [_], h.notifications, ?_⟩
  refine List.filter_cons_of_neg fun hfor => hp ?_
  obtain ⟨hkind, hkey⟩ := Bool.and_eq_true_iff.mp hfor
  exact Prod.ext (of_decide_eq_true hkind).symm (of_decide_eq_true hkey).symm

/-- What a cycle tells a target about an alert that is active. -/
inductive Outcome (permits : AlertEnv → AlertWorld → Prop) (cooldown : Int)
    (alert : OperationalAlert) (targetKey fingerprint : String) (now : Int)
    (memo : Option (Reminder.Memo String)) :
    Option (Reminder.Memo String) → List Notification → Prop
  | quiet (hdue : Reminder.due cooldown memo fingerprint now = false) :
      Outcome permits cooldown alert targetKey fingerprint now memo memo []
  | notify (n : Notification) (recorded : Bool)
      (hdue : Reminder.due cooldown memo fingerprint now = true) (halert : n.alert = alert)
      (hkey : n.targetKey = targetKey)
      (hreminder : n.isReminder = Reminder.reminds memo fingerprint)
      (hrecorded : Recorded permits (alert.kind, targetKey) n.delivered recorded) :
      Outcome permits cooldown alert targetKey fingerprint now memo
        (some (Reminder.notified memo fingerprint now recorded)) [n]

/-! ### The rows that were loaded -/

/-- A kind and a target are read back from the joined key, as no kind has a colon. -/
private theorem toTargetStateMapKey_inj {kind kind' : AlertKind} {key key' : String}
    (h : toTargetStateMapKey kind key = toTargetStateMapKey kind' key') : kind = kind' ∧
      key = key' := by
  -- the name of a kind is what stands before the first colon
  have hbefore (kind : AlertKind) (key : String) :
      (toTargetStateMapKey kind key).toList.takeWhile (· ≠ ':') = kind.name.toList := by
    have hplain : ∀ c ∈ kind.name.toList, decide (c ≠ ':') = true := fun c hc =>
      decide_eq_true fun heq : c = ':' => kind.plain (heq ▸ hc)
    rw [toTargetStateMapKey, String.toList_append, String.toList_append, List.append_assoc,
      List.takeWhile_append_of_pos hplain]
    exact List.append_nil _
  have hname : kind.name = kind'.name := by
    rw [← String.toList_inj, ← hbefore kind key, h, hbefore kind' key']
  have hkind : kind = kind' := by
    obtain ⟨name, _⟩ := kind
    obtain ⟨name', _⟩ := kind'
    obtain rfl : name = name' := hname
    rfl
  subst hkind
  have hkeys : (kind.name ++ ":").toList ++ key.toList = (kind.name ++ ":").toList ++
      key'.toList := by
    rw [← String.toList_append, ← String.toList_append]
    exact congrArg String.toList h
  exact ⟨rfl, String.toList_inj.mp (List.append_cancel_left hkeys)⟩

/-- The row that is looked up is the row of the alert and the target. -/
private theorem targetStateByKey_loaded (w : AlertWorld) {activeKinds : List AlertKind}
    {kind : AlertKind} (hkind : kind ∈ activeKinds) (targetKeys : List String) (key : String) :
    targetStateByKey (w.targetStates.rows.filter fun row => row.resolvedAt.isNone ||
      activeKinds.contains row.alertKind || targetKeys.contains row.targetKey) kind key =
        w.targetStates.find? (kind, key) := by
  unfold targetStateByKey
  rw [List.findRev?_eq_find?_reverse]
  generalize hfound : List.find? _ _ = found
  symm
  -- a row that is found has the key, and a row with the key is among those loaded
  cases found with
  | some row =>
    have hmem := (List.mem_filter.mp (List.mem_reverse.mp (List.mem_of_find?_eq_some hfound))).1
    have hkey := List.find?_some hfound
    obtain ⟨rfl, rfl⟩ := toTargetStateMapKey_inj (of_decide_eq_true hkey)
    exact Table.find?_key hmem
  | none =>
    rw [Option.eq_none_iff_forall_ne_some]
    intro row hrow
    have hkeys : row.alertKind = kind ∧ row.targetKey = key := Prod.mk.inj (Table.key_of_find? hrow)
    refine List.find?_eq_none.mp hfound row (List.mem_reverse.mpr (List.mem_filter.mpr ⟨?_, ?_⟩)) ?_
    · exact Table.mem_of_find? hrow
    · simp [hkeys.1, hkind]
    · simp [hkeys.1, hkeys.2]

/-! ### The loops -/

section Loops

variable {firstObservedAt now : Int}

/-- One notification is the outcome for its own target. -/
theorem ToldOnce.outcome {alert : OperationalAlert} {target : AlertDeliveryTarget} {cooldown : Int}
    {isReminder : Bool} {fingerprint : String} {w w' : AlertWorld}
    (h : ToldOnce permits alert target firstObservedAt now isReminder fingerprint w w')
    (hdue : Reminder.due cooldown (w.memo (alert.kind, target.key)) fingerprint now = true)
    (hreminder : isReminder = Reminder.reminds (w.memo (alert.kind, target.key)) fingerprint) :
    ∃ memo own, Outcome permits cooldown alert target.key fingerprint now
      (w.memo (alert.kind, target.key)) memo own ∧
        Tells (alert.kind, target.key) memo own w w' := by
  obtain ⟨delivered, recorded, hrecorded, hsent, hmemo⟩ := h
  refine ⟨_, _, .notify ⟨target.key, alert, firstObservedAt, now, isReminder, delivered⟩
    recorded hdue
    rfl rfl hreminder hrecorded, (hmemo _).trans (if_pos rfl), [_], hsent, ?_⟩
  simp [Notification.isFor]

/-- The loop over other targets. -/
private theorem sat_deliverToTargets_other
    (existingTargetStates : List OperationalAlertDeliveryTargetState) (alert : OperationalAlert)
    (targets : List AlertDeliveryTarget) (counts : DeliveryCounts)
    (hp : ∀ target ∈ targets, p ≠ (alert.kind, target.key)) (w : AlertWorld) :
    (deliverToTargets api sha256 config existingTargetStates alert firstObservedAt now targets
      counts).Sat (alertContract permits)
        (fun r w' => ∀ c, r = .ok c → Tells p (w.memo p) [] w w') w := by
  induction targets generalizing w counts with
  | nil => exact fun _ _ => (Silent.refl w).tells
  | cons target targets ih =>
    have hrest := fun target' hmem => hp target' (List.mem_cons_of_mem target hmem)
    unfold deliverToTargets
    dsimp only
    split
    · refine sat_bind_ok (sat_deliverToTarget _ w) fun delivered w₁ h₁ => ?_
      obtain ⟨_, _, _, htold⟩ := h₁
      have hother := htold.tells_other (hp target List.mem_cons_self)
      exact (ih _ hrest w₁).mono fun r w₂ h₂ c hr => hother.after (hother.memo ▸ h₂ c hr)
    · exact ih counts hrest w

/-- The loop over targets that `target` is one of. -/
private theorem sat_deliverToTargets_own
    (existingTargetStates : List OperationalAlertDeliveryTargetState) (alert : OperationalAlert)
    (targets : List AlertDeliveryTarget) (counts : DeliveryCounts)
    (hnodup : (targets.map (·.key)).Nodup) {target : AlertDeliveryTarget} (hmem : target ∈ targets)
    (w : AlertWorld)
    (hrow : (targetStateByKey existingTargetStates alert.kind target.key).map (·.memo) =
      w.memo (alert.kind, target.key)) :
    (deliverToTargets api sha256 config existingTargetStates alert firstObservedAt now targets
      counts).Sat (alertContract permits) (fun r w' => ∀ c, r = .ok c → ∃ memo own,
        Outcome permits (config.alertDeliveryCooldownSeconds * 1000) alert target.key
          (buildFingerprint sha256 alert) now (w.memo (alert.kind, target.key)) memo own ∧
        Tells (alert.kind, target.key) memo own w w') w := by
  induction targets generalizing w counts with
  | nil => exact nomatch hmem
  | cons first targets ih =>
    obtain ⟨hfirst, hnodup⟩ := List.nodup_cons.mp hnodup
    unfold deliverToTargets
    dsimp only
    -- the target comes first, or is one of the later ones
    rcases List.mem_cons.mp hmem with rfl | hmem
    · have hothers : ∀ other ∈ targets, (alert.kind, target.key) ≠ (alert.kind, other.key) :=
        fun other hother heq => hfirst (List.mem_map.mpr ⟨other, hother, (Prod.mk.inj heq).2.symm⟩)
      rw [shouldSendNotification_eq_due, hrow]
      split
      -- it is due: sent, and not sent again to the others
      · rename_i hdue
        refine sat_bind_ok (sat_deliverToTarget _ w) fun delivered w₁ h₁ => ?_
        rw [isReminder_eq_reminds, hrow] at h₁
        obtain ⟨memo, own, houtcome, htells⟩ := h₁.outcome hdue rfl
        refine (sat_deliverToTargets_other existingTargetStates alert targets _ hothers w₁).mono
          fun r w₂ h₂ c hr => ⟨memo, own, houtcome, htells.then_nothing (h₂ c hr)⟩
      · rename_i hquiet
        refine (sat_deliverToTargets_other existingTargetStates alert targets _ hothers w).mono
          fun r w₂ h₂ c hr => ⟨_, _, .quiet (Bool.eq_false_iff.mpr hquiet), h₂ c hr⟩
    -- what is sent to the first one leaves the memo of this pair alone
    · split
      · refine sat_bind_ok (sat_deliverToTarget _ w) fun delivered w₁ h₁ => ?_
        obtain ⟨_, _, _, htold⟩ := h₁
        have hother : Tells (alert.kind, target.key) (w.memo (alert.kind, target.key)) [] w w₁ :=
          htold.tells_other fun heq => hfirst (List.mem_map.mpr ⟨target, hmem, (Prod.mk.inj heq).2⟩)
        refine (ih _ hnodup hmem w₁ (hrow.trans hother.memo.symm)).mono fun r w₂ h₂ c hr => ?_
        obtain ⟨memo, own, houtcome, htells⟩ := h₂ c hr
        exact ⟨memo, own, hother.memo ▸ houtcome, hother.after htells⟩
      · exact ih counts hnodup hmem w hrow

/-- The state of the alert is written, and nobody is told. -/
private theorem sat_upsertObservedState_silent (alert : OperationalAlert) (fingerprint : String)
    (w : AlertWorld) :
    (upsertObservedState alert fingerprint firstObservedAt now).Sat (alertContract permits)
      (fun r w' => ∀ u, r = .ok u → Silent w w') w :=
  sat_upsertObservedState (fun _ _ _ hw _ _ => hw.silent) fun _ _ _ _ _ hr => nomatch hr

/-- The loop over the alerts says nothing about an alert that is not active, or to others than its
    targets. -/
private theorem sat_deliverAlerts_other (existingStates : List OperationalAlertState)
    (existingTargetStates : List OperationalAlertDeliveryTargetState)
    (targets : List AlertDeliveryTarget) (alerts : List OperationalAlert) (counts : DeliveryCounts)
    (hp : ∀ alert ∈ alerts, ∀ target ∈ targets, p ≠ (alert.kind, target.key)) (w : AlertWorld) :
    (deliverAlerts api sha256 config existingStates existingTargetStates targets now alerts
      counts).Sat
      (alertContract permits) (fun r w' => ∀ c, r = .ok c → Tells p (w.memo p) [] w w') w := by
  -- induction on the alerts, none of which is for the pair
  induction alerts generalizing w counts with
  | nil => exact fun _ _ => (Silent.refl w).tells
  | cons alert alerts ih =>
    have hrest := fun alert' hmem => hp alert' (List.mem_cons_of_mem alert hmem)
    unfold deliverAlerts
    dsimp only
    refine sat_bind_ok (sat_upsertObservedState_silent alert _ w) fun _ w₁ h₁ => ?_
    have htells (w₂ : AlertWorld) (h₂ : Tells p (w₁.memo p) [] w₁ w₂) : Tells p (w.memo p)
        [] w w₂ :=
      h₁.tells.after ((h₁.memo p).symm ▸ h₂)
    split
    · exact (ih _ hrest w₁).mono fun r w₂ h₂ c hr => htells w₂ (h₂ c hr)
    · refine sat_bind_ok (sat_deliverToTargets_other existingTargetStates alert targets counts
        (hp alert List.mem_cons_self) w₁) fun c w₂ h₂ => ?_
      exact (ih _ hrest w₂).mono fun r w₃ h₃ c hr => htells w₃ (h₂.after (h₂.memo ▸ h₃ c hr))

/-- The loop over the alerts, of an alert and a target in it. -/
private theorem sat_deliverAlerts_own (existingStates : List OperationalAlertState)
    (existingTargetStates : List OperationalAlertDeliveryTargetState)
    (targets : List AlertDeliveryTarget) (hkeys : (targets.map (·.key)).Nodup)
    (alerts : List OperationalAlert) (counts : DeliveryCounts)
    (hkinds : (alerts.map (·.kind)).Nodup) {alert : OperationalAlert} (halert : alert ∈ alerts)
    {target : AlertDeliveryTarget} (htarget : target ∈ targets) (w : AlertWorld)
    (hrow : (targetStateByKey existingTargetStates alert.kind target.key).map (·.memo) =
      w.memo (alert.kind, target.key)) :
    (deliverAlerts api sha256 config existingStates existingTargetStates targets now alerts
      counts).Sat
      (alertContract permits) (fun r w' => ∀ c, r = .ok c → ∃ memo own,
        Outcome permits (config.alertDeliveryCooldownSeconds * 1000) alert target.key
          (buildFingerprint sha256 alert) now (w.memo (alert.kind, target.key)) memo own ∧
        Tells (alert.kind, target.key) memo own w w') w := by
  have hnonempty : targets.isEmpty = false :=
    List.isEmpty_eq_false_iff.mpr (List.ne_nil_of_mem htarget)
  induction alerts generalizing w counts with
  | nil => exact nomatch halert
  | cons first alerts ih =>
    obtain ⟨hfirst, hkinds⟩ := List.nodup_cons.mp hkinds
    unfold deliverAlerts
    dsimp only
    refine sat_bind_ok (sat_upsertObservedState_silent first _ w) fun _ w₁ h₁ => ?_
    have hrow₁ := hrow.trans (h₁.memo _).symm
    rw [← h₁.memo (alert.kind, target.key)]
    rw [hnonempty, Bool.and_false, if_neg Bool.false_ne_true]
    -- the alert comes first, or is one of the later ones
    rcases List.mem_cons.mp halert with rfl | halert
    · refine sat_bind_ok (sat_deliverToTargets_own existingTargetStates alert targets counts hkeys
        htarget w₁ hrow₁) fun c w₂ h₂ => ?_
      obtain ⟨memo, own, houtcome, htells⟩ := h₂
      have hothers : ∀ other ∈ alerts, ∀ target' ∈ targets,
          (alert.kind, target.key) ≠ (other.kind, target'.key) := fun other hother _ _ heq =>
        hfirst (List.mem_map.mpr ⟨other, hother, (Prod.mk.inj heq).1.symm⟩)
      refine (sat_deliverAlerts_other existingStates existingTargetStates targets alerts c hothers
        w₂).mono fun r w₃ h₃ c' hr => ⟨memo, own, houtcome, ?_⟩
      exact h₁.tells.after (htells.then_nothing (h₃ c' hr))
    -- what is told about the first one leaves the memo of this pair alone
    · have hother : ∀ target' ∈ targets, (alert.kind, target.key) ≠ (first.kind, target'.key) :=
        fun _ _ heq => hfirst (List.mem_map.mpr ⟨alert, halert, (Prod.mk.inj heq).1⟩)
      refine sat_bind_ok (sat_deliverToTargets_other existingTargetStates first targets
        counts hother
        w₁) fun c w₂ h₂ => ?_
      refine (ih c hkinds halert w₂ (hrow₁.trans h₂.memo.symm)).mono fun r w₃ h₃ c' hr => ?_
      obtain ⟨memo, own, houtcome, htells⟩ := h₃ c' hr
      exact ⟨memo, own, h₂.memo ▸ houtcome, h₁.tells.after (h₂.after htells)⟩

/-! ### Alerts that are over -/

/-- The statement that closes the rows of the targets. -/
private theorem sat_resolveTargetStates_memo (p : AlertKind × String) (kind : AlertKind)
    (w : AlertWorld) :
    (resolveTargetStates kind now).Sat (alertContract permits) (fun r w' => ∀ u, r = .ok u →
      Tells p (if p.1 = kind then (w.memo p).map Reminder.Memo.close else w.memo p) [] w w') w := by
  refine sat_resolveTargetStates (fun states hfind _ _ => ⟨?_, [], rfl, rfl⟩) fun _ _ _ _ _ hr =>
    nomatch hr
  rw [AlertWorld.memo, hfind, AlertWorld.memo]
  by_cases hp : p.1 = kind
  · rw [if_pos hp]
    simp only [Option.map_map, if_pos hp]
    refine Option.map_congr fun row _ => ?_
    cases hresolved : row.resolvedAt <;>
      simp [OperationalAlertDeliveryTargetState.closed, OperationalAlertDeliveryTargetState.memo,
        Reminder.Memo.close, hresolved]
  · rw [if_neg hp]
    simp only [if_neg hp, Option.map_id']

/-- Both statements that resolve an alert. -/
private theorem sat_resolveAlert_memo {α : Type} {Q : α → AlertWorld → Prop} (kind : AlertKind)
    {g : AlertOp α} (w : AlertWorld) (hg : ∀ w', Tells p
        (if p.1 = kind then (w.memo p).map Reminder.Memo.close else w.memo p) [] w w' →
      g.Sat (alertContract permits) (fun r w'' => ∀ a, r = .ok a → Q a w'') w') :
    (do
      updateState (.resolveState kind) kind fun row => { row with resolvedAt := some now }
      resolveTargetStates kind now
      g : AlertOp α).Sat (alertContract permits) (fun r w'' => ∀ a, r = .ok a → Q a w'') w := by
  refine sat_bind_ok (P := fun _ w₁ => Silent w w₁) ?_ fun _ w₁ h₁ => ?_
  · refine sat_updateState ?_ (fun _ _ _ hw _ _ => hw.silent) (fun _ _ hr => nomatch hr)
      fun _ _ _ _ _ hr => nomatch hr
    exact fun _ => rfl
  · refine sat_bind_ok (sat_resolveTargetStates_memo p kind w₁) fun _ w₂ h₂ => hg w₂ ?_
    rw [h₁.memo] at h₂
    exact h₁.tells.after h₂

/-- The loop at the end closes the rows of the targets of an alert that is over, if its own row was
    open. -/
private theorem sat_resolveClearedAlerts_over (activeKinds : List AlertKind)
    (states : List OperationalAlertState) (resolved : Nat) (hp : p.1 ∉ activeKinds) (w : AlertWorld)
    (hopen : ∀ memo, w.memo p = some memo → memo.closed = false → OpenIn states p.1) :
    (resolveClearedAlerts activeKinds now states resolved).Sat (alertContract permits)
      (fun r w' => ∀ c, r = .ok c → Tells p ((w.memo p).map Reminder.Memo.close) [] w w') w := by
  induction states generalizing w resolved with
  | nil =>
    have hclosed : (w.memo p).map Reminder.Memo.close = w.memo p := by
      cases hmemo : w.memo p with
      | none => rfl
      | some memo =>
        cases hclosed : memo.closed with
        | false =>
          obtain ⟨_, hmem, _⟩ := hopen memo hmemo hclosed
          cases hmem
        | true => exact congrArg some (Reminder.Memo.ext rfl hclosed.symm rfl)
    rw [hclosed]
    exact fun _ _ => (Silent.refl w).tells
  | cons state states ih =>
    unfold resolveClearedAlerts
    split
    · rename_i hkept
      refine ih resolved w fun memo hmemo hclosed => ?_
      obtain ⟨other, hmem, hkind, hresolved⟩ := hopen memo hmemo hclosed
      rcases List.mem_cons.mp hmem with rfl | hmem
      · -- the row that is passed over is resolved, or active
        simp [hresolved, hkind, hp] at hkept
      · exact ⟨other, hmem, hkind, hresolved⟩
    · refine sat_resolveAlert_memo (p := p) state.kind w fun w₁ h₁ => ?_
      by_cases hkind : p.1 = state.kind
      · rw [if_pos hkind] at h₁
        refine (ih _ w₁ fun memo hmemo hclosed => ?_).mono fun r w₂ h₂ c hr => ?_
        · obtain ⟨_, _, rfl⟩ := Option.map_eq_some_iff.mp (h₁.memo.symm.trans hmemo)
          cases hclosed
        · have h₂ := h₂ c hr
          rw [h₁.memo, Option.map_map] at h₂
          exact h₁.trans h₂
      · rw [if_neg hkind] at h₁
        refine (ih _ w₁ fun memo hmemo hclosed => ?_).mono fun r w₂ h₂ c hr => ?_
        · obtain ⟨other, hmem, hother, hresolved⟩ := hopen memo (h₁.memo.symm.trans hmemo) hclosed
          rcases List.mem_cons.mp hmem with rfl | hmem
          · exact absurd hother.symm hkind
          · exact ⟨other, hmem, hother, hresolved⟩
        · exact h₁.after (h₁.memo ▸ h₂ c hr)

/-- It leaves the rows of the targets of an alert that is active alone. -/
private theorem sat_resolveClearedAlerts_active (activeKinds : List AlertKind)
    (states : List OperationalAlertState) (resolved : Nat) (hp : p.1 ∈ activeKinds)
    (w : AlertWorld) :
    (resolveClearedAlerts activeKinds now states resolved).Sat (alertContract permits)
      (fun r w' => ∀ c, r = .ok c → Tells p (w.memo p) [] w w') w := by
  induction states generalizing w resolved with
  | nil => exact fun _ _ => (Silent.refl w).tells
  | cons state states ih =>
    unfold resolveClearedAlerts
    split
    · exact ih resolved w
    · rename_i hcleared
      have hkind : p.1 ≠ state.kind := by
        rintro heq
        simp [← heq, hp] at hcleared
      refine sat_resolveAlert_memo (p := p) state.kind w fun w₁ h₁ => ?_
      rw [if_neg hkind] at h₁
      exact (ih _ w₁).mono fun r w₂ h₂ c hr => h₁.after (h₁.memo ▸ h₂ c hr)

end Loops

/-! ### A cycle -/

/-- What a completed cycle tells `p` and remembers of it. -/
structure PairTold (permits : AlertEnv → AlertWorld → Prop) (sha256 : Text → String)
    (cooldownSeconds : Nat) (targets : List AlertDeliveryTarget) (now : Int) (active : ActiveAlerts)
    (p : AlertKind × String) (w w' : AlertWorld) : Prop where
  /-- an active alert and one of the targets -/
  own : ∀ alert ∈ active.alerts, ∀ target ∈ targets, p = (alert.kind, target.key) → ∃ memo own,
    Outcome permits (cooldownSeconds * 1000) alert target.key (buildFingerprint sha256 alert) now
      (w.memo p) memo own ∧ Tells p memo own w w'
  other : TargetsCovered w →
    (∀ alert ∈ active.alerts, ∀ target ∈ targets, p ≠ (alert.kind, target.key)) →
      ∃ memo, Tells p memo [] w w' ∧
        (p.1 ∉ active.kinds → memo = (w.memo p).map Reminder.Memo.close)

/-- The open rows are among those that are loaded. -/
private theorem openIn_loaded {w : AlertWorld} {kind : AlertKind} (activeKinds : List AlertKind)
    (h : w.OpenKind kind) : OpenIn (w.alertStates.rows.filter fun row =>
      row.resolvedAt.isNone || activeKinds.contains row.kind) kind := by
  obtain ⟨row, hrow, hopen⟩ := h
  refine ⟨row, List.mem_filter.mpr ⟨Table.mem_of_find? hrow, ?_⟩, Table.key_of_find? hrow, hopen⟩
  simp [hopen]

/-- When only the lease is written, nothing is told. -/
private theorem SameAlerts.silent {w w' : AlertWorld} (h : SameAlerts w w') : Silent w w' :=
  ⟨h.targetStates, h.notifications⟩

/-- A cycle with the lease. -/
theorem sat_syncWithLease_told {source : AlertOp ActiveAlerts} {Q : ActiveAlerts → Prop}
    (hsource : source.Sat (alertContract permits)
      (fun r w' => SameAlerts w w' ∧ ∀ active, r = .ok active → Q active) w)
    (targets : List AlertDeliveryTarget) (hkeys : (targets.map (·.key)).Nodup) (now : Int)
    (p : AlertKind × String) :
    (syncWithLease api sha256 config source targets now).Sat (alertContract permits)
      (fun r w' => ∀ result, r = .ok result → ∃ active, Q active ∧
        PairTold permits sha256 config.alertDeliveryCooldownSeconds targets now active p w w')
          w := by
  refine (sat_bind _ _ _ w).mpr (hsource.mono fun r w₁ ⟨hsame, hQ⟩ => ?_)
  cases r with
  | error e => exact fun _ hr => nomatch hr
  | ok active =>
    have hsilent : Tells p (w.memo p) [] w w₁ := hsame.silent.tells
    refine (sat_bind _ _ _ w₁).mpr (sat_alertRead ?_ fun _ _ _ _ _ hr => nomatch hr)
    dsimp only
    refine (sat_bind _ _ _ w₁).mpr (sat_alertRead ?_ fun _ _ _ _ _ hr => nomatch hr)
    dsimp only
    by_cases hown : ∃ alert ∈ active.alerts, ∃ target ∈ targets, p = (alert.kind, target.key)
    · obtain ⟨alert, halert, target, htarget, rfl⟩ := hown
      have hkind : alert.kind ∈ active.kinds := List.mem_map_of_mem halert
      have hrow := congrArg (Option.map (·.memo))
        (targetStateByKey_loaded w₁ hkind (targets.map (·.key)) target.key)
      refine sat_bind_ok (sat_deliverAlerts_own _ _ targets hkeys active.alerts ⟨0, 0⟩ active.nodup
        halert htarget w₁ hrow) fun counts w₂ ⟨memo, own, houtcome, htells⟩ => ?_
      refine sat_bind_ok (sat_resolveClearedAlerts_active (p := (alert.kind, target.key))
        active.kinds _
        0 hkind w₂) fun resolved w₃ h₃ => ?_
      refine fun _ _ => ⟨active, hQ active rfl, fun alert' halert' target' htarget' heq => ?_,
        fun _ hother => absurd rfl (hother alert halert target htarget)⟩
      obtain ⟨hkinds, hkey⟩ := Prod.mk.inj heq
      obtain rfl : alert = alert' := List.inj_on_of_nodup_map active.nodup halert halert' hkinds
      rw [hsilent.memo] at houtcome
      exact ⟨memo, own, hkey ▸ houtcome, hsilent.after (htells.then_nothing h₃)⟩
    · have hother : ∀ alert ∈ active.alerts, ∀ target ∈ targets, p ≠ (alert.kind, target.key) :=
        fun alert halert target htarget heq => hown ⟨alert, halert, target, htarget, heq⟩
      by_cases hcovered : TargetsCovered w
      · refine sat_bind_ok (sat_deliverAlerts_other _ _ targets active.alerts ⟨0, 0⟩ hother w₁)
          fun counts w₂ h₂ => ?_
        have htells : Tells p (w.memo p) [] w w₂ := hsilent.after (hsilent.memo ▸ h₂)
        have hend (memo : Option (Reminder.Memo String)) (w₃ : AlertWorld)
            (h₃ : Tells p memo [] w₂ w₃)
            (hmemo : p.1 ∉ active.kinds → memo = (w.memo p).map Reminder.Memo.close) :
            ∃ active, Q active ∧ PairTold permits sha256 config.alertDeliveryCooldownSeconds
              targets now
              active p w w₃ :=
          ⟨active, hQ active rfl, fun alert halert target htarget heq =>
            absurd heq (hother alert halert target htarget),
            fun _ _ => ⟨memo, htells.after h₃, hmemo⟩⟩
        by_cases hkind : p.1 ∈ active.kinds
        · exact sat_bind_ok (sat_resolveClearedAlerts_active active.kinds _ 0 hkind w₂)
            fun resolved w₃ h₃ _ _ => hend _ w₃ h₃ fun hover => absurd hkind hover
        · refine sat_bind_ok (sat_resolveClearedAlerts_over active.kinds _ 0 hkind w₂
            fun memo hmemo hclosed => ?_) fun resolved w₃ h₃ _ _ =>
              hend _ w₃ h₃ fun _ => congrArg (Option.map _) htells.memo
          -- the alert of an open row of a target has an open row
          rw [h₂.memo] at hmemo
          obtain ⟨row, hrow, rfl⟩ := Option.map_eq_some_iff.mp hmemo
          refine openIn_loaded active.kinds ?_
          have hopen : w₁.OpenTarget p.1 p.2 := ⟨row, hrow, Option.isSome_eq_false_iff.mp hclosed |>
            Option.isNone_iff_eq_none.mp⟩
          exact ((openRows_of_covered hcovered).of_same hsame).covered p.1 p.2 hopen
      · refine sat_of_forall (fun _ _ => trivial) (fun r w' _ _ => ?_) _ w₁
        exact ⟨active, hQ active rfl, fun alert halert target htarget heq =>
          absurd heq (hother alert halert target htarget), fun h => absurd h hcovered⟩

/-! ### The targets -/

/-- The keys of the targets are different, as the environment is checked for that. -/
private theorem appendTargets_nodup {targets configured result : List AlertDeliveryTarget}
    (h : appendTargets targets configured = .ok result) (hnodup : (targets.map (·.key)).Nodup) :
    (result.map (·.key)).Nodup := by
  induction configured generalizing targets with
  | nil =>
    obtain rfl := Except.ok.inj h
    exact hnodup
  | cons target configured ih =>
    unfold appendTargets at h
    split at h
    · exact nomatch h
    · rename_i hfresh
      refine ih h ?_
      rw [List.map_append]
      refine List.Nodup.append hnodup (List.nodup_singleton _) fun key hkey hlast => hfresh ?_
      obtain rfl := List.mem_singleton.mp hlast
      obtain ⟨other, hother, heq⟩ := List.mem_map.mp hkey
      exact List.any_eq_true.mpr ⟨other, hother, decide_eq_true heq⟩

/-- The targets have different keys. -/
private theorem alertDeliveryTargets_nodup {targets : List AlertDeliveryTarget}
    (h : config.alertDeliveryTargets = .ok targets) : (targets.map (·.key)).Nodup := by
  refine appendTargets_nodup h ?_
  cases (config.alertDeliveryWebhookUrl.filter (· ≠ [])).map
    fun url => (⟨"webhook", url⟩ : AlertDeliveryTarget) <;> simp

/-- What comes before without telling anybody changes nothing. -/
theorem PairTold.after {cooldownSeconds : Nat} {targets : List AlertDeliveryTarget} {now : Int}
    {active : ActiveAlerts} {w w₁ w' : AlertWorld} (hsilent : Silent w w₁)
    (hcovered : TargetsCovered w → TargetsCovered w₁)
    (h : PairTold permits sha256 cooldownSeconds targets now active p w₁ w') :
    PairTold permits sha256 cooldownSeconds targets now active p w w' := by
  refine ⟨fun alert halert target htarget hp => ?_, fun hw hother => ?_⟩
  · obtain ⟨memo, own, houtcome, htells⟩ := h.own alert halert target htarget hp
    rw [hsilent.memo] at houtcome
    exact ⟨memo, own, houtcome, hsilent.tells.after htells⟩
  · obtain ⟨memo, htells, hover⟩ := h.other (hcovered hw) hother
    rw [hsilent.memo] at hover
    exact ⟨memo, hsilent.tells.after htells, hover⟩

/-- A completed cycle that has got the lease. The monitoring service looks at the state after
    that. -/
theorem sat_syncOperationalAlerts_told {targets : List AlertDeliveryTarget}
    (hconfig : config.alertDeliveryTargets = .ok targets) {source : AlertOp ActiveAlerts}
    {Q : ActiveAlerts → Prop} {w : AlertWorld} (hsource : ∀ ℓ, (∀ name,
        name ≠ BackgroundJob.alertDelivery.leaseName →
          ℓ.leases.find? name = w.leases.leases.find? name) →
      source.Sat (alertContract permits)
        (fun r w' => SameAlerts (AlertWorld.leasesLens.set ℓ w) w' ∧
        ∀ active, r = .ok active → Q active) (AlertWorld.leasesLens.set ℓ w))
    (now : Int) (p : AlertKind × String) :
    (syncOperationalAlerts api sha256 config source now).Sat (alertContract permits)
      (fun r w' => ∀ result, r = .ok result → AcquiredLease w w' → ∃ active, Q active ∧
        PairTold permits sha256 config.alertDeliveryCooldownSeconds targets now active p w w')
          w := by
  unfold syncOperationalAlerts
  split
  -- delivery disabled, or no target: no lease is taken
  · exact fun _ _ hacquired => absurd rfl hacquired
  · rw [hconfig]
    dsimp only
    split
    · exact fun _ _ hacquired => absurd rfl hacquired
    · refine (sat_bind _ _ _ w).mpr ((sat_zoom AlertWorld.leasesLens _ _ _ w
        (sat_tryAcquireLease config.leases .alertDelivery config.leaseOwnerId w.leases)).mono ?_)
      rintro r _ ⟨r₀, ℓ, rfl, rfl, hacquired, hothers⟩
      -- with the lease, the cycle; without it, nothing
      cases r₀ with
      | error e => exact fun _ hr => nomatch hr
      | ok leaseAcquired =>
        cases leaseAcquired with
        | false => exact fun _ _ hlogged => absurd (hacquired fun hr => nomatch hr) hlogged
        | true =>
          refine (sat_syncWithLease_told (hsource ℓ hothers) targets
            (alertDeliveryTargets_nodup hconfig) now
            p).mono fun r w' h result hr _ => ?_
          obtain ⟨active, hQ, htold⟩ := h result hr
          have hsilent : Silent w (AlertWorld.leasesLens.set ℓ w) := ⟨rfl, rfl⟩
          exact ⟨active, hQ, htold.after hsilent fun hcovered => hcovered⟩

/-! ### Runs of completed cycles -/

/-- A completed cycle: the alerts that were active, and what has been sent. -/
structure CycleRecord where
  now : Int
  active : ActiveAlerts
  sent : List Notification

/-- The cycle as the target sees it of the alert. -/
def CycleRecord.tick (sha256 : Text → String) (p : AlertKind × String) (c : CycleRecord) :
    Reminder.Tick String where
  now := c.now
  active := (c.active.alerts.find? (·.kind = p.1)).map (buildFingerprint sha256)
  sent := (c.sent.find? (·.isFor p)).map (·.delivered)

section Runs

variable (api : UrlApi) (sha256 : Text → String) (targets : List AlertDeliveryTarget)
  (cooldownSeconds : Nat)

/-- Completed cycles for the same targets, latest first, and the state after them. The other
    services leave the rows of the alerts alone. -/
inductive DeliveryRun (safe : AlertWorld → CycleRecord → Prop) :
    AlertWorld → List CycleRecord → Prop
  | start (w : AlertWorld) (hstates : w.alertStates = .empty) (htargets : w.targetStates = .empty) :
      DeliveryRun safe w []
  | cycle {w w' : AlertWorld} {history : List CycleRecord} {result : SyncResult}
      (hrun : DeliveryRun safe w history) (config : AlertDeliveryConfig)
      (hconfig : config.alertDeliveryTargets = .ok targets)
      (hcooldown : config.alertDeliveryCooldownSeconds = cooldownSeconds) (active : ActiveAlerts)
      (now : Int) (sent : List Notification)
      (hcycle : RunsWhere (fun _ _ => True)
        (syncOperationalAlerts api sha256 config (observe active) now) w (.ok result) w')
      (hacquired : AcquiredLease w w') (hsent : w'.notifications = sent ++ w.notifications)
      (hsafe : safe w ⟨now, active, sent⟩) : DeliveryRun safe w' (⟨now, active, sent⟩ :: history)
  | others {w w' : AlertWorld} {history : List CycleRecord} (hrun : DeliveryRun safe w history)
      (hstates : w'.alertStates = w.alertStates) (htargets : w'.targetStates = w.targetStates) :
      DeliveryRun safe w' history

/-- A notification that a target refuses is new for it, or it repeats the one that its row has
    been delivered for. -/
def RefusalsSafe (w : AlertWorld) (c : CycleRecord) : Prop :=
  ∀ n ∈ c.sent, n.delivered = false → ∀ row,
    w.targetStates.find? (n.alert.kind, n.targetKey) = some row → row.lastDeliveredAt.isSome →
      row.resolvedAt = none ∧ row.fingerprint = buildFingerprint sha256 n.alert

/-- Every target is told of an active alert whose fingerprint it has not got yet, and reminded only
    of what it has got since the alert became active. -/
def NothingLost (history : List CycleRecord) (active : ActiveAlerts)
    (sent : List Notification) : Prop :=
  (∀ alert ∈ active.alerts, ∀ target ∈ targets,
    Reminder.deliveredSince (buildFingerprint sha256 alert)
      (history.map (·.tick sha256 (alert.kind, target.key))) = false →
        ∃ n ∈ sent, n.alert = alert ∧ n.targetKey = target.key) ∧
  ∀ n ∈ sent, n.isReminder = true → Reminder.deliveredInStretch (buildFingerprint sha256 n.alert)
    (history.map (·.tick sha256 (n.alert.kind, n.targetKey))) = true

variable {api sha256 targets cooldownSeconds} {safe : AlertWorld → CycleRecord → Prop}
  {w' : AlertWorld} {history : List CycleRecord} {active : ActiveAlerts} {now : Int}
  {sent : List Notification}

/-- The alert of a kind is found among the active ones. -/
theorem find?_active {alert : OperationalAlert} (h : alert ∈ active.alerts) :
    active.alerts.find? (·.kind = alert.kind) = some alert := by
  cases hfind : active.alerts.find? (·.kind = alert.kind) with
  | none => simpa using List.find?_eq_none.mp hfind alert h
  | some other =>
    have hkind := List.find?_some hfind
    exact congrArg some (List.inj_on_of_nodup_map active.nodup (List.mem_of_find?_eq_some hfind) h
      (of_decide_eq_true hkind))

/-- The notifications of a cycle for one pair. -/
theorem Tells.filter_sent {memo : Option (Reminder.Memo String)} {own : List Notification}
    (h : Tells p memo own w w') (hsent : w'.notifications = sent ++ w.notifications) :
    sent.filter (·.isFor p) = own := by
  obtain ⟨-, sent', hsent', hown⟩ := h
  obtain rfl : sent = sent' := List.append_cancel_right (hsent.symm.trans hsent')
  exact hown

/-- What one cycle does to the reminder of a pair. -/
theorem tick_eq (p : AlertKind × String) (now : Int) (active : ActiveAlerts)
    (sent : List Notification) :
    CycleRecord.tick sha256 p ⟨now, active, sent⟩ =
      ⟨now, (active.alerts.find? (·.kind = p.1)).map (buildFingerprint sha256),
        (sent.filter (·.isFor p)).head?.map (·.delivered)⟩ := by
  rw [List.head?_filter]
  rfl

/-- For an active alert and a target, a completed cycle is a step of the notifier. -/
theorem PairTold.step {lossless : Prop} {alert : OperationalAlert} {target : AlertDeliveryTarget}
    (h : PairTold permits sha256 cooldownSeconds targets now active (alert.kind, target.key) w w')
    (halert : alert ∈ active.alerts) (htarget : target ∈ targets)
    (hsent : w'.notifications = sent ++ w.notifications)
    (hlossless : lossless → RecordsDeliveries permits (alert.kind, target.key)) :
    Reminder.Step (cooldownSeconds * 1000) lossless (w.memo (alert.kind, target.key))
      (CycleRecord.tick sha256 (alert.kind, target.key) ⟨now, active, sent⟩)
      (w'.memo (alert.kind, target.key)) := by
  obtain ⟨memo, own, houtcome, htells⟩ := h.own alert halert target htarget rfl
  have htick : CycleRecord.tick sha256 (alert.kind, target.key) ⟨now, active, sent⟩ =
      ⟨now, some (buildFingerprint sha256 alert), own.head?.map (·.delivered)⟩ := by
    rw [tick_eq, find?_active halert, htells.filter_sent hsent]
    rfl
  rw [htick, htells.memo]
  cases houtcome with
  | quiet hdue => exact .quiet now _ hdue
  | notify n recorded hdue hn hkey hreminder hrecorded =>
    exact .notify now _ n.delivered recorded hdue hrecorded.accepted fun hl =>
      hrecorded.records (hlossless hl)

/-- For an alert that is not active, it is one, too. -/
private theorem PairTold.step_over {lossless : Prop}
    (h : PairTold permits sha256 cooldownSeconds targets now active p w w')
    (hcovered : TargetsCovered w) (hp : p.1 ∉ active.kinds)
    (hsent : w'.notifications = sent ++ w.notifications) :
    Reminder.Step (cooldownSeconds * 1000) lossless (w.memo p)
      (CycleRecord.tick sha256 p ⟨now, active, sent⟩) (w'.memo p) := by
  have hother : ∀ alert ∈ active.alerts, ∀ target ∈ targets, p ≠ (alert.kind, target.key) :=
    fun alert halert target _ heq =>
      hp (List.mem_map.mpr ⟨alert, halert, congrArg Prod.fst heq.symm⟩)
  obtain ⟨memo, htells, hover⟩ := h.other hcovered hother
  have htick : CycleRecord.tick sha256 p ⟨now, active, sent⟩ = ⟨now, none, none⟩ := by
    have hactive : active.alerts.find? (·.kind = p.1) = none :=
      List.find?_eq_none.mpr fun alert halert hkind =>
        hp (List.mem_map.mpr ⟨alert, halert, of_decide_eq_true hkind⟩)
    rw [tick_eq, hactive, htells.filter_sent hsent]
    rfl
  rw [htick, htells.memo, hover hp]
  exact .inactive now

/-- A notification is for its own pair. -/
private theorem eq_of_isFor {n : Notification} (h : n.isFor p = true) :
    p = (n.alert.kind, n.targetKey) := by
  obtain ⟨hkind, hkey⟩ := Bool.and_eq_true_iff.mp h
  exact Prod.ext (of_decide_eq_true hkind).symm (of_decide_eq_true hkey).symm

/-- Every notification of a completed cycle is one of an active alert. -/
private theorem PairTold.of_sent (h : PairTold permits sha256 cooldownSeconds targets now
    active p w w')
    (hcovered : TargetsCovered w) (hsent : w'.notifications = sent ++ w.notifications)
    {n : Notification} (hn : n ∈ sent) (hfor : n.isFor p = true) :
    n.alert ∈ active.alerts ∧ (∃ target ∈ targets, n.targetKey = target.key) ∧
      n.isReminder = Reminder.reminds (w.memo p) (buildFingerprint sha256 n.alert) := by
  have hmem : n ∈ sent.filter (·.isFor p) := List.mem_filter.mpr ⟨hn, hfor⟩
  -- the pair is active in this cycle, or nothing is sent to it
  by_cases hown : ∃ alert ∈ active.alerts, ∃ target ∈ targets, p = (alert.kind, target.key)
  · obtain ⟨alert, halert, target, htarget, hp⟩ := hown
    obtain ⟨memo, own, houtcome, htells⟩ := h.own alert halert target htarget hp
    rw [htells.filter_sent hsent] at hmem
    cases houtcome with
    | quiet hdue => exact nomatch hmem
    | notify n' recorded hdue hn' hkey hreminder hrecorded =>
      obtain rfl := List.mem_singleton.mp hmem
      exact ⟨hn' ▸ halert, ⟨target, htarget, hkey⟩, hn' ▸ hreminder⟩
  · obtain ⟨memo, htells, -⟩ := h.other hcovered fun alert halert target htarget hp =>
      hown ⟨alert, halert, target, htarget, hp⟩
    rw [htells.filter_sent hsent] at hmem
    exact nomatch hmem

/-- The log of the notifications grows. -/
private theorem PairTold.grows (h : PairTold permits sha256 cooldownSeconds targets now
    active p w w')
    (hcovered : TargetsCovered w) : ∃ sent, w'.notifications = sent ++ w.notifications := by
  by_cases hown : ∃ alert ∈ active.alerts, ∃ target ∈ targets, p = (alert.kind, target.key)
  · obtain ⟨alert, halert, target, htarget, hp⟩ := hown
    obtain ⟨_, _, _, -, sent, hsent, -⟩ := h.own alert halert target htarget hp
    exact ⟨sent, hsent⟩
  · obtain ⟨_, ⟨-, sent, hsent, -⟩, -⟩ := h.other hcovered fun alert halert target htarget hp =>
      hown ⟨alert, halert, target, htarget, hp⟩
    exact ⟨sent, hsent⟩

/-- Every state may be left by an abort. -/
private theorem abortsIn_true : AbortsIn (fun _ _ => True) fun _ => True :=
  ⟨fun _ _ => trivial, fun _ _ _ _ _ => trivial⟩

/-- In every reachable state the open rows have their targets. -/
theorem DeliveryRun.covered (hrun : DeliveryRun api sha256 targets cooldownSeconds safe w history) :
    TargetsCovered w := by
  induction hrun with
  | start w _ htargets =>
    intro kind targetKey ⟨row, hrow, _⟩
    rw [htargets] at hrow
    exact nomatch hrow
  | cycle _ config _ _ active now _ hcycle _ _ _ ih =>
    exact (((sat_syncOperationalAlerts abortsIn_true (sat_observe active) now ih).runsWhere
      hcycle).2 _ rfl).1
  | others _ hstates htargets ih =>
    unfold TargetsCovered AlertWorld.OpenTarget AlertWorld.OpenKind
    rw [hstates, htargets]
    exact ih

/-- A cycle in a run, of one alert and one target. -/
private theorem pairTold_of_runs {config : AlertDeliveryConfig}
    (hconfig : config.alertDeliveryTargets = .ok targets)
    (hcooldown : config.alertDeliveryCooldownSeconds = cooldownSeconds) {result : SyncResult}
    (hcycle : RunsWhere permits (syncOperationalAlerts api sha256 config (observe active) now) w
      (.ok result) w') (hacquired : AcquiredLease w w') (p : AlertKind × String) :
    PairTold permits sha256 cooldownSeconds targets now active p w w' := by
  obtain ⟨_, rfl, htold⟩ := (sat_syncOperationalAlerts_told hconfig
    (fun ℓ _ => sat_observe active _) now p).runsWhere hcycle result rfl hacquired
  exact hcooldown ▸ htold

/-- What is remembered of a target is the memo of its history. -/
theorem DeliveryRun.reminder
    (hrun : DeliveryRun api sha256 targets cooldownSeconds (RefusalsSafe sha256) w history)
    {p : AlertKind × String} {target : AlertDeliveryTarget} (htarget : target ∈ targets)
    (hp : p.2 = target.key) :
    Reminder.History (cooldownSeconds * 1000) (history.map (·.tick sha256 p)) (w.memo p) := by
  induction hrun with
  | start w _ htargets =>
    have hmemo : w.memo p = none := by
      rw [AlertWorld.memo, htargets]
      rfl
    rw [hmemo]
    exact .start
  | @cycle w w' history result hrun config hconfig hcooldown active now sent hcycle hacquired
    hsent hsafe
      ih =>
    have htold := pairTold_of_runs hconfig hcooldown hcycle hacquired p
    refine .cycle ih ?_ fun hrefused memo hmemo hdelivered => ?_
    · by_cases hactive : p.1 ∈ active.kinds
      · obtain ⟨alert, halert, hkind⟩ := List.mem_map.mp hactive
        obtain rfl : p = (alert.kind, target.key) := Prod.ext hkind.symm hp
        exact htold.step halert htarget hsent False.elim
      · exact htold.step_over hrun.covered hactive hsent
    · -- the refused notification is one of the cycle
      obtain ⟨n, hn, hfailed⟩ := Option.map_eq_some_iff.mp hrefused
      have hmem : n ∈ sent := List.mem_of_find?_eq_some hn
      have hfor : n.isFor p = true := List.find?_some hn
      have hactive := (htold.of_sent hrun.covered hsent hmem hfor).1
      obtain rfl := eq_of_isFor hfor
      obtain ⟨row, hrow, rfl⟩ := Option.map_eq_some_iff.mp hmemo
      obtain ⟨hopen, hsame⟩ := hsafe n hmem hfailed row hrow hdelivered
      refine ⟨Option.isSome_eq_false_iff.mpr (Option.isNone_iff_eq_none.mpr hopen), ?_⟩
      show (CycleRecord.tick sha256 (n.alert.kind, n.targetKey) ⟨now, active, sent⟩).active = _
      rw [tick_eq, find?_active hactive]
      exact congrArg some hsame.symm
  | others _ hstates htargets ih =>
    rw [AlertWorld.memo, htargets]
    exact ih

/-- As long as a refused notification is not recorded over the delivery of something else, no
    notification is lost. -/
theorem notifications_notLost
    (hrun : DeliveryRun api sha256 targets cooldownSeconds (RefusalsSafe sha256) w history)
    {config : AlertDeliveryConfig} (hconfig : config.alertDeliveryTargets = .ok targets)
    (hcooldown : config.alertDeliveryCooldownSeconds = cooldownSeconds) {result : SyncResult}
    (hcycle : RunsWhere (fun _ _ => True)
      (syncOperationalAlerts api sha256 config (observe active) now)
      w (.ok result) w') (hacquired : AcquiredLease w w') :
    ∃ sent, w'.notifications = sent ++ w.notifications ∧
      NothingLost sha256 targets history active sent := by
  have htold := pairTold_of_runs hconfig hcooldown hcycle hacquired
  obtain ⟨sent, hsent⟩ := (htold (usageIngestFailedJobsKind, "")).grows hrun.covered
  -- first half: the alert is due; second half: a reminder was promised
  refine ⟨sent, hsent, fun alert halert target htarget hnot => ?_, fun n hn hreminder => ?_⟩
  · obtain ⟨memo, own, houtcome, htells⟩ := (htold _).own alert halert target htarget rfl
    have hown := htells.filter_sent hsent
    have hhistory := hrun.reminder htarget (p := (alert.kind, target.key)) rfl
    cases houtcome with
    | quiet hdue => exact nomatch hdue.symm.trans (hhistory.due hnot now)
    | notify n recorded hdue hn hkey hreminder hrecorded =>
      have hmem : n ∈ sent.filter (·.isFor (alert.kind, target.key)) := by
        rw [hown]
        exact List.mem_singleton_self n
      exact ⟨n, (List.mem_filter.mp hmem).1, hn, hkey⟩
  · have hfor : n.isFor (n.alert.kind, n.targetKey) = true := by simp [Notification.isFor]
    obtain ⟨-, ⟨target, htarget, hkey⟩, hlabel⟩ := (htold _).of_sent hrun.covered hsent hn hfor
    exact (hrun.reminder htarget hkey).reminds (hlabel.symm.trans hreminder)

end Runs

/-! ### A sample -/

/-- The sample has one target. -/
theorem sampleAlertConfig_targets :
    sampleAlertConfig.alertDeliveryTargets = .ok [⟨"webhook", "https://api.example/v1".toList⟩] :=
      rfl

/-- A longer log of leases means that one was acquired. -/
theorem acquiredLease_of_length {w w' : AlertWorld}
    (h : w'.leases.acquired.length ≠ w.leases.acquired.length) : AcquiredLease w w' := fun heq =>
  h (congrArg List.length heq)

/-- The first cycle of the samples, in which the alert is delivered. -/
private theorem deliveryRun_observed {safe : AlertWorld → CycleRecord → Prop}
    (hsafe : safe .empty ⟨0, alertAlone (sampleAlert "1 job"), observedWorld.notifications⟩) :
    DeliveryRun sampleUrlApi String.ofList [⟨"webhook", "https://api.example/v1".toList⟩] 900 safe
      observedWorld [⟨0, alertAlone (sampleAlert "1 job"), observedWorld.notifications⟩] := by
  have hcycle := runsWhere_sampleCycle (sampleAlertEnv true fun _ => none)
    (alertAlone (sampleAlert "1 job")) 0 .empty
  have hok : (sampleCycle (sampleAlertEnv true fun _ => none) (alertAlone (sampleAlert "1 job")) 0
      .empty).1 = .ok ⟨⟨1, 0⟩, 0⟩ := by decide +kernel
  rw [hok] at hcycle
  refine .cycle (.start .empty rfl rfl) sampleAlertConfig sampleAlertConfig_targets rfl _ 0 _ hcycle
    (acquiredLease_of_length ?_) (List.append_nil _).symm hsafe
  decide +kernel

/-- The message has changed a minute later. -/
theorem notifications_notLost_sample :
    ∃ sent, (sampleCycle (sampleAlertEnv true fun _ => none)
      (alertAlone (sampleAlert "2 jobs")) 60000
        observedWorld).2.notifications = sent ++ observedWorld.notifications ∧
      NothingLost String.ofList [⟨"webhook", "https://api.example/v1".toList⟩]
        [⟨0, alertAlone (sampleAlert "1 job"), observedWorld.notifications⟩]
        (alertAlone (sampleAlert "2 jobs")) sent := by
  have hcycle := runsWhere_sampleCycle (sampleAlertEnv true fun _ => none)
    (alertAlone (sampleAlert "2 jobs")) 60000 observedWorld
  have hok : (sampleCycle (sampleAlertEnv true fun _ => none)
      (alertAlone (sampleAlert "2 jobs")) 60000
      observedWorld).1 = .ok ⟨⟨1, 0⟩, 0⟩ := by decide +kernel
  rw [hok] at hcycle
  refine notifications_notLost (deliveryRun_observed fun _ _ _ row hrow => nomatch hrow)
    sampleAlertConfig_targets rfl hcycle (acquiredLease_of_length ?_)
  decide +kernel

/-- The message changes, and the target refuses the notification. -/
def refusedWorld : AlertWorld :=
  (sampleCycle (sampleAlertEnv false fun _ => none) (alertAlone (sampleAlert "2 jobs")) 60000
    observedWorld).2

/-- What becomes of the samples. -/
private theorem refusedWorld_spec :
    (sampleCycle (sampleAlertEnv false fun _ => none) (alertAlone (sampleAlert "2 jobs")) 60000
        observedWorld).1 = .ok ⟨⟨0, 1⟩, 0⟩ ∧
      refusedWorld.leases.acquired.length ≠ observedWorld.leases.acquired.length ∧
      refusedWorld.notifications =
        [⟨"webhook", sampleAlert "2 jobs", 60000, 60000, false, false⟩] ++
          observedWorld.notifications ∧
      (sampleCycle (sampleAlertEnv true fun _ => none) (alertAlone (sampleAlert "2 jobs")) 120000
        refusedWorld).1 = .ok ⟨⟨0, 0⟩, 0⟩ ∧
      (sampleCycle (sampleAlertEnv true fun _ => none) (alertAlone (sampleAlert "2 jobs")) 120000
        refusedWorld).2.leases.acquired.length ≠ refusedWorld.leases.acquired.length ∧
      (sampleCycle (sampleAlertEnv true fun _ => none) (alertAlone (sampleAlert "2 jobs")) 120000
        refusedWorld).2.notifications = refusedWorld.notifications := by
  decide +kernel

/-- It is not sent again: the row has the new fingerprint and the instant of the old delivery. -/
theorem not_notifications_notLost :
    ¬∀ (api : UrlApi) (sha256 : Text → String) (targets : List AlertDeliveryTarget)
        (cooldownSeconds : Nat) (w : AlertWorld) (history : List CycleRecord)
        (config : AlertDeliveryConfig) (active : ActiveAlerts) (now : Int) (result : SyncResult)
        (w' : AlertWorld) (sent : List Notification),
      DeliveryRun api sha256 targets cooldownSeconds (fun _ _ => True) w history →
      config.alertDeliveryTargets = .ok targets →
      config.alertDeliveryCooldownSeconds = cooldownSeconds →
      RunsWhere (fun _ _ => True) (syncOperationalAlerts api sha256 config (observe active) now) w
        (.ok result) w' → AcquiredLease w w' → w'.notifications = sent ++ w.notifications →
      NothingLost sha256 targets history active sent := by
  intro h
  obtain ⟨hok, hacquired, hsent, hlastOk, hlastAcquired, hquiet⟩ := refusedWorld_spec
  -- a refused statement loses the memo of a notification that was sent
  have hcycle := runsWhere_sampleCycle (sampleAlertEnv false fun _ => none)
    (alertAlone (sampleAlert "2 jobs")) 60000 observedWorld
  rw [hok] at hcycle
  have hrun : DeliveryRun sampleUrlApi String.ofList
      [⟨"webhook", "https://api.example/v1".toList⟩] 900
      (fun _ _ => True) refusedWorld _ :=
    .cycle (deliveryRun_observed trivial) sampleAlertConfig sampleAlertConfig_targets rfl _ 60000 _
      hcycle (acquiredLease_of_length hacquired) hsent trivial
  have hlast := runsWhere_sampleCycle (sampleAlertEnv true fun _ => none)
    (alertAlone (sampleAlert "2 jobs")) 120000 refusedWorld
  rw [hlastOk] at hlast
  -- the next cycle is quiet, though nobody was told
  obtain ⟨htold, -⟩ := h _ _ _ _ _ _ _ _ _ _ _ [] hrun sampleAlertConfig_targets rfl hlast
    (acquiredLease_of_length hlastAcquired) hquiet
  obtain ⟨_, hmem, -⟩ := htold _ List.mem_cons_self _ List.mem_cons_self (by decide +kernel)
  exact nomatch hmem

end HivePoint
