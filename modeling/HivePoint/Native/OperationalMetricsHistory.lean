import HivePoint.Native.OperationalAlertDelivery
import HivePoint.Native.Time

/-!
# OperationalMetricsHistoryService

The service of `operational-metrics-history.service.ts`: a cycle that has acquired the lease
stores a snapshot of the metrics and deletes the points that are past their retention.
-/

namespace HivePoint

structure OperationalMetricsHistoryPoint where
  id : Id
  capturedAt : Int
  snapshot : OperationalMetricsSnapshot
  auditLogsLast24h : Nat
  deriving DecidableEq

instance : Row OperationalMetricsHistoryPoint Id where
  key := (·.id)
  uniques := []

/-- What the service acts on. -/
structure HistoryWorld where
  monitored : AlertWorld
  points : Table OperationalMetricsHistoryPoint
  /-- all points that were ever stored, latest first -/
  created : List OperationalMetricsHistoryPoint
  /-- the latest `new Date()` of a cycle -/
  clock : Int

abbrev HistoryOp := Prog HistoryWorld AlertEnv Err

def HistoryWorld.monitoredLens : Lens HistoryWorld AlertWorld where
  get := (·.monitored)
  set monitored w := { w with monitored }
  get_set _ _ := rfl
  set_set _ _ _ := rfl
  set_get _ := rfl

structure MetricsHistoryConfig where
  monitoring : MonitoringConfig
  operationalMetricsHistoryEnabled : Bool
  operationalMetricsHistoryIntervalSeconds : Nat
  operationalMetricsHistoryRetentionDays : Nat

section Statements

variable {α : Type}

def onMonitored (op : AlertOp α) : HistoryOp α := op.zoom HistoryWorld.monitoredLens id id

/-- A statement about the points that the database executes, or refuses without effect. -/
def historyStatement (f : AlertEnv → HistoryWorld → Except Err (α × HistoryWorld)) : HistoryOp α :=
  Prog.stmt fun env w =>
    match env.db.dbError with
    | some m => (.error (.database m), w)
    | none =>
      match f env w with
      | .ok (a, w') => (.ok a, w')
      | .error e => (.error e, w)

/-- `new Date()` of a cycle -/
def historyClock : HistoryOp Int :=
  Prog.stmt fun env w => (.ok env.db.now, { w with clock := env.db.now })

/-- `operationalMetricsHistoryPoint.create` -/
def createPoint (capturedAt : Int) (snapshot : OperationalMetricsSnapshot)
    (auditLogsLast24h : Nat) :
    HistoryOp Unit :=
  historyStatement fun env w =>
    let point : OperationalMetricsHistoryPoint :=
      ⟨env.db.uuid, capturedAt, snapshot, auditLogsLast24h⟩
    match w.points.insert? point with
    | some points => .ok ((), { w with points := points, created := point :: w.created })
    | none => .error (.uniqueConstraint [])

/-- `operationalMetricsHistoryPoint.deleteMany`, and the number of points that it deletes. -/
def deletePointsBefore (retentionCutoff : Int) : HistoryOp Nat :=
  historyStatement fun _ w =>
    .ok ((w.points.rows.filter (·.capturedAt < retentionCutoff)).length,
      { w with points := w.points.deleteWhere (·.capturedAt < retentionCutoff) })

/-- `operationalMetricsHistoryPoint.findMany`, the latest first. -/
def findLatestPoints (take : Nat) : HistoryOp (List OperationalMetricsHistoryPoint) :=
  historyStatement fun _ w =>
    .ok ((w.points.rows.mergeSort fun a b => b.capturedAt ≤ a.capturedAt).take take, w)

end Statements

structure OperationalMetricsHistorySummary where
  enabled : Bool
  intervalSeconds : Nat
  retentionDays : Nat
  items : List OperationalMetricsHistoryPoint

/-- The points that `captureMetricsSnapshot` deletes at `now` are from before this. -/
def MetricsHistoryConfig.retentionCutoff (config : MetricsHistoryConfig) (now : Int) : Int :=
  addUTCDays now (-config.operationalMetricsHistoryRetentionDays)

/-- Whether the cycle captured a snapshot, and how many points it deleted. -/
structure CaptureResult where
  captured : Bool
  pruned : Nat

section Service

variable (config : MetricsHistoryConfig)

def captureMetricsSnapshot (leaseOwnerId : String) (now : Int) : HistoryOp CaptureResult := do
  if !config.operationalMetricsHistoryEnabled then return ⟨false, 0⟩
  else
    let leaseAcquired ← onMonitored <| (BackgroundJob.metricsHistory.tryAcquireLease
      config.monitoring.leases leaseOwnerId).zoom AlertWorld.leasesLens (·.lease) LeaseError.toErr
    if !leaseAcquired then return ⟨false, 0⟩
    else
      let (snapshot, auditLogsLast24h) ←
        onMonitored (getMetricsSnapshotWithAuditLogs config.monitoring now)
      createPoint now snapshot auditLogsLast24h
      let pruned ← deletePointsBefore (config.retentionCutoff now)
      return ⟨true, pruned⟩

/-- A cycle that throws is logged. -/
def runScheduledCapture (leaseOwnerId : String) : HistoryOp Unit := do
  let now ← historyClock
  tryCatch (do let _ ← captureMetricsSnapshot config leaseOwnerId now) fun _ => pure ()

/-- `take` of `getHistorySummary`. -/
def summarySize (limit : Int) : Nat := (max 1 (min limit 500)).toNat

def getHistorySummary (limit : Int) : HistoryOp OperationalMetricsHistorySummary := do
  let points ← findLatestPoints (summarySize limit)
  return {
    enabled := config.operationalMetricsHistoryEnabled
    intervalSeconds := config.operationalMetricsHistoryIntervalSeconds
    retentionDays := config.operationalMetricsHistoryRetentionDays
    items := points.reverse }

end Service

end HivePoint
