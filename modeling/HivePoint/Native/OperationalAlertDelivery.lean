import HivePoint.Native.OperationalMonitoring

/-!
# OperationalAlertDeliveryService

`syncOperationalAlerts` of `operational-alert-delivery.service.ts`: observe the active alerts,
send those that are due to each target, and resolve the alerts that are not active any more. The
monitoring service is injected.
-/

namespace HivePoint

/-! ### Configuration -/

structure AlertDeliveryTarget where
  key : String
  url : Text
  deriving DecidableEq

/-- The values of `AppConfigService` that the delivery reads, and the owner of its lease. -/
structure AlertDeliveryConfig where
  alertDeliveryEnabled : Bool
  alertDeliveryWebhookUrl : Option Text
  /-- `ALERT_DELIVERY_TARGETS` -/
  configuredTargets : List AlertDeliveryTarget
  alertDeliveryCooldownSeconds : Nat
  allowPrivateNetworkTargets : Bool
  leases : LeaseConfig
  leaseOwnerId : String

/-- Append the configured targets, unless one has the key of an earlier one. -/
def appendTargets : List AlertDeliveryTarget → List AlertDeliveryTarget →
    Except Err (List AlertDeliveryTarget)
  | targets, [] => .ok targets
  | targets, target :: configured =>
    if targets.any (·.key = target.key) then
      .error (.error s!"Duplicate alert delivery target key: {target.key}")
    else appendTargets (targets ++ [target]) configured

/-- The getter `alertDeliveryTargets`. -/
def AlertDeliveryConfig.alertDeliveryTargets (config : AlertDeliveryConfig) :
    Except Err (List AlertDeliveryTarget) :=
  let webhook := (config.alertDeliveryWebhookUrl.filter (· ≠ [])).map fun url => ⟨"webhook", url⟩
  appendTargets webhook.toList config.configuredTargets

/-! ### Fingerprints -/

/-- A character of a string in a JSON text. -/
def jsonChar (c : Char) : Text :=
  match c.toNat with
  | 8 => "\\b".toList
  | 9 => "\\t".toList
  | 10 => "\\n".toList
  | 12 => "\\f".toList
  | 13 => "\\r".toList
  -- the quotation mark and the backslash
  | 34 | 92 => ['\\', c]
  | code =>
    if code < 32 then "\\u00".toList ++ [Nat.digitChar (code / 16),
      Nat.digitChar (code % 16)] else [c]

def jsonString (s : String) : Text := "\"".toList ++ s.toList.flatMap jsonChar ++ "\"".toList

def AlertDetail.json : AlertDetail → Text
  | .number n => (toString n).toList
  | .bool b => (toString b).toList
  | .string s => jsonString s
  | .null => "null".toList

/-- An object of a JSON text, with the texts of its values. -/
def jsonObject (fields : List (String × Text)) : Text :=
  "\x7b".toList ++ ",".toList.intercalate (fields.map fun f =>
    jsonString f.1 ++ ":".toList ++ f.2) ++
    "\x7d".toList

/-- The values of `OperationalAlertSeverity`. -/
def AlertSeverity.value : AlertSeverity → String
  | .warning => "WARNING"
  | .danger => "DANGER"

/-- The text that is hashed. -/
def OperationalAlert.json (alert : OperationalAlert) : Text :=
  jsonObject [("severity", jsonString alert.severity.value), ("title", jsonString alert.title),
    ("message", jsonString alert.message),
    ("details", match alert.details with
      | some details => jsonObject (details.map fun d => (d.1, d.2.json))
      | none => "null".toList)]

section Service

/-! The URL library and the hex digest of SHA-256 are parameters. -/

variable (api : UrlApi) (sha256 : Text → String) (config : AlertDeliveryConfig)

def buildFingerprint (alert : OperationalAlert) : String := sha256 alert.json

/-! ### What is due -/

/-- A row of either table, as far as `shouldSendNotification` reads it. -/
structure DeliveryRecord where
  resolvedAt : Option Int
  fingerprint : String
  lastDeliveredAt : Option Int
  deriving DecidableEq

def OperationalAlertState.record (state : OperationalAlertState) : DeliveryRecord :=
  ⟨state.resolvedAt, state.fingerprint, state.lastDeliveredAt⟩

def OperationalAlertDeliveryTargetState.record (state : OperationalAlertDeliveryTargetState) :
    DeliveryRecord :=
  ⟨state.resolvedAt, state.fingerprint, state.lastDeliveredAt⟩

def shouldSendNotification (cooldownSeconds : Nat) (state : Option DeliveryRecord)
    (fingerprint : String) (now : Int) : Bool :=
  match state with
  | none => true
  | some state =>
    if state.resolvedAt.isSome then true
    else if state.fingerprint ≠ fingerprint then true
    else
      match state.lastDeliveredAt with
      | none => true
      | some lastDeliveredAt => now - lastDeliveredAt ≥ cooldownSeconds * 1000

/-- `isReminder` -/
def isReminder (state : Option DeliveryRecord) (fingerprint : String) : Bool :=
  match state with
  | none => false
  | some state =>
    state.resolvedAt.isNone && state.fingerprint = fingerprint && state.lastDeliveredAt.isSome

def resolveFirstObservedAt (state : Option OperationalAlertState) (fingerprint : String)
    (now : Int) : Int :=
  match state with
  | none => now
  | some state =>
    if state.resolvedAt.isSome then now
    else if state.fingerprint ≠ fingerprint then now
    else state.firstObservedAt

/-! ### Statements -/

/-- A write of `alertStates`; the constraints of the table are the database's. -/
def writeStates (statement : AlertStatement)
    (f : Table OperationalAlertState → Option (Table OperationalAlertState)) : AlertOp Unit :=
  alertStatement statement fun w =>
    match f w.alertStates with
    | some alertStates => .ok ((), { w with alertStates })
    | none => .error (.uniqueConstraint [])

def writeTargetStates (statement : AlertStatement)
    (f : Table OperationalAlertDeliveryTargetState →
      Option (Table OperationalAlertDeliveryTargetState)) : AlertOp Unit :=
  alertStatement statement fun w =>
    match f w.targetStates with
    | some targetStates => .ok ((), { w with targetStates })
    | none => .error (.uniqueConstraint [])

/-- `operationalAlertState.update({ where: { kind }, data })` -/
def updateState (statement : AlertStatement) (kind : AlertKind)
    (data : OperationalAlertState → OperationalAlertState) : AlertOp Unit :=
  alertStatement statement fun w =>
    if (w.alertStates.find? kind).isNone then .error .recordNotFound
    else
      match w.alertStates.update? kind data with
      | some alertStates => .ok ((), { w with alertStates })
      | none => .error (.uniqueConstraint [])

def loadRelevantStates (activeKinds : List AlertKind) : AlertOp (List OperationalAlertState) :=
  alertRead .loadRelevantStates fun w =>
    w.alertStates.rows.filter fun row => row.resolvedAt.isNone || activeKinds.contains row.kind

def loadRelevantTargetStates (activeKinds : List AlertKind) (targetKeys : List String) :
    AlertOp (List OperationalAlertDeliveryTargetState) :=
  alertRead .loadRelevantTargetStates fun w =>
    w.targetStates.rows.filter fun row =>
      row.resolvedAt.isNone || activeKinds.contains row.alertKind || targetKeys.contains
        row.targetKey

/-- The row that `upsertObservedState` creates. -/
def observedState (alert : OperationalAlert) (fingerprint : String) (firstObservedAt now : Int) :
    OperationalAlertState where
  kind := alert.kind
  fingerprint := fingerprint
  severity := alert.severity
  title := alert.title
  message := alert.message
  details := alert.details
  firstObservedAt := firstObservedAt
  lastObservedAt := now
  resolvedAt := none
  lastDeliveredAt := none
  lastDeliveryAttemptAt := none
  deliveryCount := 0
  deliveryFailures := 0
  lastDeliveryError := none

def upsertObservedState (alert : OperationalAlert) (fingerprint : String)
    (firstObservedAt now : Int) : AlertOp Unit :=
  writeStates (.upsertObservedState alert.kind) fun states =>
    states.upsert? (observedState alert fingerprint firstObservedAt now) fun row =>
      { row with
        fingerprint
        severity := alert.severity
        title := alert.title
        message := alert.message
        details := alert.details
        firstObservedAt
        lastObservedAt := now
        resolvedAt := none }

def markDeliverySuccess (kind : AlertKind) (now : Int) : AlertOp Unit :=
  updateState (.markDeliverySuccess kind) kind fun row =>
    { row with
      lastDeliveredAt := some now
      lastDeliveryAttemptAt := some now
      lastDeliveryError := none
      deliveryCount := row.deliveryCount + 1 }

/-- `this.describeError(error).slice(0, 1000)` -/
def deliveryError (error : Err) : String :=
  ((describeError "Unknown alert delivery error" error).take 1000).toString

def markDeliveryFailure (kind : AlertKind) (now : Int) (error : Err) : AlertOp Unit :=
  updateState (.markDeliveryFailure kind) kind fun row =>
    { row with
      lastDeliveryAttemptAt := some now
      deliveryFailures := row.deliveryFailures + 1
      lastDeliveryError := some (deliveryError error) }

def markTargetDeliverySuccess (alertKind : AlertKind) (target : AlertDeliveryTarget)
    (fingerprint : String) (now : Int) : AlertOp Unit :=
  writeTargetStates (.markTargetDeliverySuccess alertKind target.key) fun states =>
    states.upsert?
      { alertKind
        targetKey := target.key
        fingerprint
        resolvedAt := none
        lastDeliveredAt := some now
        lastDeliveryAttemptAt := some now
        deliveryCount := 1
        deliveryFailures := 0
        lastDeliveryError := none }
      fun row =>
        { row with
          fingerprint
          resolvedAt := none
          lastDeliveredAt := some now
          lastDeliveryAttemptAt := some now
          lastDeliveryError := none
          deliveryCount := row.deliveryCount + 1 }

def markTargetDeliveryFailure (alertKind : AlertKind) (target : AlertDeliveryTarget)
    (fingerprint : String) (now : Int) (error : Err) : AlertOp Unit :=
  writeTargetStates (.markTargetDeliveryFailure alertKind target.key) fun states =>
    states.upsert?
      { alertKind
        targetKey := target.key
        fingerprint
        resolvedAt := none
        lastDeliveredAt := none
        lastDeliveryAttemptAt := some now
        deliveryCount := 0
        deliveryFailures := 1
        lastDeliveryError := some (deliveryError error) }
      fun row =>
        { row with
          fingerprint
          resolvedAt := none
          lastDeliveryAttemptAt := some now
          deliveryFailures := row.deliveryFailures + 1
          lastDeliveryError := some (deliveryError error) }

/-- `updateMany({ where: { alertKind: kind, resolvedAt: null }, data: { resolvedAt: now } })` -/
def closeTargetStates (kind : AlertKind) (now : Int)
    (states : Table OperationalAlertDeliveryTargetState) :
    Table OperationalAlertDeliveryTargetState :=
  states.mapRows
    (fun row =>
      if row.alertKind = kind && row.resolvedAt.isNone then { row with resolvedAt := some now
        } else row)
    (fun row => by split <;> rfl) (fun _ hmem => nomatch hmem)

def resolveTargetStates (kind : AlertKind) (now : Int) : AlertOp Unit :=
  writeTargetStates (.resolveTargetStates kind) fun states =>
    some (closeTargetStates kind now states)

/-! ### Delivery -/

/-- `deliverAlert` with its notification, which the target has got unless it throws. -/
def sendAlert (target : AlertDeliveryTarget) (alert : OperationalAlert)
    (firstObservedAt now : Int) (isReminder : Bool) : AlertOp Unit := do
  let result ← ((deliverAlert api config.allowPrivateNetworkTargets target.url).zoom
    AlertWorld.netLens (·.net) id).attempt
  let delivered := match result with
    | .ok _ => true
    | .error _ => false
  Prog.stmt fun _ w => (.ok (), { w with
    notifications := ⟨target.key, alert, firstObservedAt, now, isReminder, delivered⟩ ::
      w.notifications })
  match result with
  | .ok _ => return ()
  | .error error => throw error

/-- Is the notification of `alert` to `target` delivered? `targetState` is the row that was loaded
    at the start of the cycle. -/
def deliverToTarget (alert : OperationalAlert) (firstObservedAt now : Int)
    (targetState : Option OperationalAlertDeliveryTargetState) (target : AlertDeliveryTarget) :
    AlertOp Bool :=
  let fingerprint := buildFingerprint sha256 alert
  let isReminder := isReminder (targetState.map (·.record)) fingerprint
  tryCatch
    (do
      sendAlert api config target alert firstObservedAt now isReminder
      -- `Promise.all`
      Prog.both (markDeliverySuccess alert.kind now)
        (markTargetDeliverySuccess alert.kind target fingerprint now)
      return true)
    fun error => do
      Prog.both (markDeliveryFailure alert.kind now error)
        (markTargetDeliveryFailure alert.kind target fingerprint now error)
      return false

def toTargetStateMapKey (alertKind : AlertKind) (targetKey : String) : String :=
  alertKind.name ++ ":" ++ targetKey

/-- `targetStatesByKey.get(this.toTargetStateMapKey(kind, targetKey)) ?? null` -/
def targetStateByKey (existingTargetStates : List OperationalAlertDeliveryTargetState)
    (kind : AlertKind) (targetKey : String) : Option OperationalAlertDeliveryTargetState :=
  existingTargetStates.findRev? fun row =>
    toTargetStateMapKey row.alertKind row.targetKey = toTargetStateMapKey kind targetKey

structure DeliveryCounts where
  delivered : Nat
  failed : Nat
  deriving DecidableEq

def DeliveryCounts.count (counts : DeliveryCounts) (delivered : Bool) : DeliveryCounts :=
  if delivered then { counts with delivered := counts.delivered + 1 }
  else { counts with failed := counts.failed + 1 }

/-- The loop over the targets. -/
def deliverToTargets (existingTargetStates : List OperationalAlertDeliveryTargetState)
    (alert : OperationalAlert) (firstObservedAt now : Int) :
    List AlertDeliveryTarget → DeliveryCounts → AlertOp DeliveryCounts
  | [], counts => return counts
  | target :: targets, counts =>
    let targetState := targetStateByKey existingTargetStates alert.kind target.key
    if shouldSendNotification config.alertDeliveryCooldownSeconds (targetState.map (·.record))
        (buildFingerprint sha256 alert) now then do
      let delivered ←
        deliverToTarget api sha256 config alert firstObservedAt now targetState target
      deliverToTargets existingTargetStates alert firstObservedAt now targets
        (counts.count delivered)
    else deliverToTargets existingTargetStates alert firstObservedAt now targets counts

/-- The loop over the alerts. Whether the notification of the alert itself is due decides nothing,
    as there are targets. -/
def deliverAlerts (existingStates : List OperationalAlertState)
    (existingTargetStates : List OperationalAlertDeliveryTargetState)
    (targets : List AlertDeliveryTarget) (now : Int) :
    List OperationalAlert → DeliveryCounts → AlertOp DeliveryCounts
  | [], counts => return counts
  | alert :: alerts, counts => do
    let fingerprint := buildFingerprint sha256 alert
    -- `statesByKind.get(alert.kind) ?? null`
    let existingState := existingStates.findRev? (·.kind = alert.kind)
    let firstObservedAt := resolveFirstObservedAt existingState fingerprint now
    upsertObservedState alert fingerprint firstObservedAt now
    let counts ←
      if !shouldSendNotification config.alertDeliveryCooldownSeconds (existingState.map (·.record))
          fingerprint now && targets.isEmpty then pure counts
      else
        deliverToTargets api sha256 config existingTargetStates alert firstObservedAt now targets
          counts
    deliverAlerts existingStates existingTargetStates targets now alerts counts

/-- How many alerts it resolved, besides `resolved`. -/
def resolveClearedAlerts (activeKinds : List AlertKind) (now : Int) :
    List OperationalAlertState → Nat → AlertOp Nat
  | [], resolved => return resolved
  | state :: states, resolved =>
    if state.resolvedAt.isSome || activeKinds.contains state.kind then
      resolveClearedAlerts activeKinds now states resolved
    else do
      updateState (.resolveState state.kind) state.kind fun row =>
        { row with resolvedAt := some now }
      resolveTargetStates state.kind now
      resolveClearedAlerts activeKinds now states (resolved + 1)

/-! ### The cycle -/

structure SyncResult extends DeliveryCounts where
  resolved : Nat
  deriving DecidableEq

/-- An error of the lease transaction as it leaves `tryAcquireLease`. -/
def LeaseError.toErr : LeaseError → Err
  | .transactionConflict =>
    .database
      "Transaction failed due to a write conflict or a deadlock. Please retry your transaction"
  | .database message => .database message

/-- A cycle that has acquired the lease. -/
def syncWithLease (listOperationalAlerts : AlertOp ActiveAlerts)
    (targets : List AlertDeliveryTarget) (now : Int) : AlertOp SyncResult := do
  let active ← listOperationalAlerts
  let existingStates ← loadRelevantStates active.kinds
  let existingTargetStates ← loadRelevantTargetStates active.kinds (targets.map (·.key))
  let counts ←
    deliverAlerts api sha256 config existingStates existingTargetStates targets now active.alerts
      ⟨0, 0⟩
  let resolved ← resolveClearedAlerts active.kinds now existingStates 0
  return { counts with resolved }

def syncOperationalAlerts (listOperationalAlerts : AlertOp ActiveAlerts) (now : Int) :
    AlertOp SyncResult :=
  if !config.alertDeliveryEnabled then return ⟨⟨0, 0⟩, 0⟩
  else
    match config.alertDeliveryTargets with
    | .error e => throw e
    | .ok targets =>
      if targets.isEmpty then return ⟨⟨0, 0⟩, 0⟩
      else do
        let leaseAcquired ← (BackgroundJob.alertDelivery.tryAcquireLease config.leases
          config.leaseOwnerId).zoom AlertWorld.leasesLens (·.lease) LeaseError.toErr
        if !leaseAcquired then return ⟨⟨0, 0⟩, 0⟩
        else syncWithLease api sha256 config listOperationalAlerts targets now

end Service

end HivePoint
