import HivePoint.ForStd.Zoom
import HivePoint.Native.BackgroundJobLease
import HivePoint.Native.Config
import HivePoint.Native.OutboundRequests
import HivePoint.Native.World

/-!
# OperationalMonitoringService

The metrics snapshot of `operational-monitoring.service.ts` and the alerts that are derived from
it, with the state that the alert delivery acts on.
-/

namespace HivePoint

/-! ### Alerts -/

/-- The `kind` of an alert. The kinds contain no colon, which the delivery relies on. -/
structure AlertKind where
  name : String
  plain : ':' ∉ name.toList
  deriving DecidableEq

/-- `OperationalAlertSeverity` -/
inductive AlertSeverity where
  | warning | danger
  deriving DecidableEq

/-- A value of `details`. -/
inductive AlertDetail where
  | number (n : Int)
  | bool (b : Bool)
  | string (s : String)
  | null
  deriving DecidableEq

structure OperationalAlert where
  kind : AlertKind
  severity : AlertSeverity
  title : String
  message : String
  details : Option (List (String × AlertDetail))
  deriving DecidableEq

/-- Alerts of different kinds. -/
structure ActiveAlerts where
  alerts : List OperationalAlert
  nodup : (alerts.map (·.kind)).Nodup

def ActiveAlerts.kinds (active : ActiveAlerts) : List AlertKind := active.alerts.map (·.kind)

/-! ### Rows -/

structure OperationalAlertState where
  kind : AlertKind
  fingerprint : String
  severity : AlertSeverity
  title : String
  message : String
  details : Option (List (String × AlertDetail))
  firstObservedAt : Int
  lastObservedAt : Int
  resolvedAt : Option Int
  lastDeliveredAt : Option Int
  lastDeliveryAttemptAt : Option Int
  deliveryCount : Nat
  deliveryFailures : Nat
  lastDeliveryError : Option String
  deriving DecidableEq

structure OperationalAlertDeliveryTargetState where
  alertKind : AlertKind
  targetKey : String
  fingerprint : String
  resolvedAt : Option Int
  lastDeliveredAt : Option Int
  lastDeliveryAttemptAt : Option Int
  deliveryCount : Nat
  deliveryFailures : Nat
  lastDeliveryError : Option String
  deriving DecidableEq

instance : Row OperationalAlertState AlertKind where
  key := (·.kind)
  uniques := []

instance : Row OperationalAlertDeliveryTargetState (AlertKind × String) where
  key r := (r.alertKind, r.targetKey)
  uniques := []

/-! ### State and environment -/

/-- A notification that was sent to a target, and whether the target accepted it. -/
structure Notification where
  targetKey : String
  alert : OperationalAlert
  firstObservedAt : Int
  generatedAt : Int
  /-- `ALERT_REMINDER` and not `ALERT_ACTIVE` -/
  isReminder : Bool
  delivered : Bool
  deriving DecidableEq

structure AlertWorld where
  db : World
  leases : LeaseWorld
  net : NetLog
  alertStates : Table OperationalAlertState
  targetStates : Table OperationalAlertDeliveryTargetState
  /-- latest first -/
  notifications : List Notification

/-- The statements that the database executes for the delivery, and the lease of a job that the
    monitoring looks up. -/
inductive AlertStatement where
  | findLease (job : BackgroundJob)
  | loadRelevantStates
  | loadRelevantTargetStates
  | upsertObservedState (kind : AlertKind)
  | markDeliverySuccess (kind : AlertKind)
  | markDeliveryFailure (kind : AlertKind)
  | markTargetDeliverySuccess (kind : AlertKind) (targetKey : String)
  | markTargetDeliveryFailure (kind : AlertKind) (targetKey : String)
  | resolveState (kind : AlertKind)
  | resolveTargetStates (kind : AlertKind)
  deriving DecidableEq

structure AlertEnv where
  db : Env
  lease : LeaseEnv
  net : NetEnv
  /-- the message with which the database refuses the statement -/
  refuses : AlertStatement → Option String

abbrev AlertOp := Prog AlertWorld AlertEnv Err

def AlertWorld.dbLens : Lens AlertWorld World where
  get := (·.db)
  set db w := { w with db }
  get_set _ _ := rfl
  set_set _ _ _ := rfl
  set_get _ := rfl

def AlertWorld.leasesLens : Lens AlertWorld LeaseWorld where
  get := (·.leases)
  set leases w := { w with leases }
  get_set _ _ := rfl
  set_set _ _ _ := rfl
  set_get _ := rfl

def AlertWorld.netLens : Lens AlertWorld NetLog where
  get := (·.net)
  set net w := { w with net }
  get_set _ _ := rfl
  set_set _ _ _ := rfl
  set_get _ := rfl

section Statements

variable {α : Type}

/-- A statement that the database executes, or refuses without effect. -/
def alertStatement (statement : AlertStatement) (f : AlertWorld → Except Err (α × AlertWorld)) :
    AlertOp α :=
  Prog.stmt fun env w =>
    match env.refuses statement with
    | some m => (.error (.database m), w)
    | none =>
      match f w with
      | .ok (a, w') => (.ok a, w')
      | .error e => (.error e, w)

/-- A statement that only reads. -/
def alertRead (statement : AlertStatement) (f : AlertWorld → α) : AlertOp α :=
  alertStatement statement fun w => .ok (f w, w)

/-- A statement of the tables that the other services share. -/
def readDatabase (f : World → α) : AlertOp α :=
  (read f).zoom AlertWorld.dbLens (·.db) id

end Statements

/-! ### The snapshot -/

/-- The fields that the alerts are derived from. -/
structure OperationalMetricsSnapshot where
  usageIngestPendingJobs : Nat
  usageIngestFailedJobs : Nat
  usageIngestOldestPendingAgeSeconds : Int
  usageIngestLeasePresent : Bool
  usageIngestLeaseSecondsUntilExpiry : Int
  billingReconciliationLeasePresent : Bool
  billingReconciliationLeaseSecondsUntilExpiry : Int
  billingOverageCollectionLeasePresent : Bool
  billingOverageCollectionLeaseSecondsUntilExpiry : Int
  subscriptionsPastDue : Nat
  deriving DecidableEq

def World.countJobs (w : World) (status : UsageIngestJobStatus) : Nat :=
  (w.usageIngestJobs.rows.filter (·.status = status)).length

/-- `createdAt` of the `findFirst` that orders by it. -/
def World.oldestPendingUsageJob (w : World) : Option Int :=
  ((w.usageIngestJobs.rows.filter (·.status = .pending)).map (·.createdAt)).min?

def World.countPastDue (w : World) : Nat :=
  (w.subscriptions.rows.filter (·.status = .pastDue)).length

/-- The job of the lease that is looked up when `enabled`. -/
def findLease (enabled : Bool) (job : BackgroundJob) : AlertOp (Option BackgroundJobLease) :=
  if enabled then alertRead (.findLease job) fun w => w.leases.leases.find? job.leaseName
  else pure none

def ageSeconds (now : Int) : Option Int → Int
  | some createdAt => max 0 ((now - createdAt) / 1000)
  | none => 0

def secondsUntilExpiry (now : Int) : Option BackgroundJobLease → Int
  | some lease => (lease.expiresAt - now) / 1000
  | none => 0

/-- The values of `AppConfigService` that the monitoring reads. -/
structure MonitoringConfig where
  app : AppConfig
  leases : LeaseConfig

section Monitoring

variable (config : MonitoringConfig)

/-- Does a Stripe job run? -/
def MonitoringConfig.stripeJob (enabled : Bool) : Bool :=
  config.app.paymentProvider = .stripe && enabled

def getMetricsSnapshot (now : Int) : AlertOp OperationalMetricsSnapshot := do
  let usageIngestPendingJobs ← readDatabase (·.countJobs .pending)
  let usageIngestFailedJobs ← readDatabase (·.countJobs .failed)
  let oldestPendingUsageJob ← readDatabase (·.oldestPendingUsageJob)
  let subscriptionsPastDue ← readDatabase (·.countPastDue)
  let usageIngestLease ← findLease config.app.usageIngestQueueEnabled .usageIngest
  let billingReconciliationLease ←
    findLease (config.stripeJob config.app.billingReconciliationEnabled) .reconciliation
  let billingOverageCollectionLease ←
    findLease (config.stripeJob config.app.billingOverageCollectionEnabled) .overageCollection
  return {
    usageIngestPendingJobs
    usageIngestFailedJobs
    usageIngestOldestPendingAgeSeconds := ageSeconds now oldestPendingUsageJob
    usageIngestLeasePresent := usageIngestLease.isSome
    usageIngestLeaseSecondsUntilExpiry := secondsUntilExpiry now usageIngestLease
    billingReconciliationLeasePresent := billingReconciliationLease.isSome
    billingReconciliationLeaseSecondsUntilExpiry :=
      secondsUntilExpiry now billingReconciliationLease
    billingOverageCollectionLeasePresent := billingOverageCollectionLease.isSome
    billingOverageCollectionLeaseSecondsUntilExpiry :=
      secondsUntilExpiry now billingOverageCollectionLease
    subscriptionsPastDue }

/-! ### The alerts of a snapshot -/

def usageIngestFailedJobsKind : AlertKind := ⟨"USAGE_INGEST_FAILED_JOBS", by decide⟩
def usageIngestBacklogKind : AlertKind := ⟨"USAGE_INGEST_BACKLOG", by decide⟩
def usageIngestWorkerStaleKind : AlertKind := ⟨"USAGE_INGEST_WORKER_STALE", by decide⟩
def usageIngestOldPendingJobKind : AlertKind := ⟨"USAGE_INGEST_OLD_PENDING_JOB", by decide⟩
def billingReconciliationStaleKind : AlertKind := ⟨"BILLING_RECONCILIATION_STALE", by decide⟩
def billingOverageCollectionStaleKind : AlertKind := ⟨"BILLING_OVERAGE_COLLECTION_STALE", by decide⟩
def subscriptionsPastDueHighKind : AlertKind := ⟨"SUBSCRIPTIONS_PAST_DUE_HIGH", by decide⟩

/-- `PAST_DUE_SUBSCRIPTION_WARNING_THRESHOLD` -/
def pastDueSubscriptionWarningThreshold : Nat := 10

/-- `USAGE_QUEUE_BACKLOG_WARNING_THRESHOLD` -/
def usageQueueBacklogWarningThreshold : Nat := 100

/-- The lease of a worker is missing or expired. -/
def isStale (leasePresent : Bool) (secondsUntilExpiry : Int) : Bool :=
  !leasePresent || (leasePresent && secondsUntilExpiry < 0)

section Alerts

variable (snapshot : OperationalMetricsSnapshot)

def usageIngestFailedJobsAlert : OperationalAlert where
  kind := usageIngestFailedJobsKind
  severity := .danger
  title := "Usage ingest has failed jobs"
  message := s!"{snapshot.usageIngestFailedJobs} usage ingest job(s) are currently in FAILED state."
  details := some [("failedJobs", .number snapshot.usageIngestFailedJobs)]

def usageIngestBacklogAlert : OperationalAlert where
  kind := usageIngestBacklogKind
  severity := .warning
  title := "Usage ingest backlog is growing"
  message := s!"{snapshot.usageIngestPendingJobs} usage ingest job(s) are waiting in the queue."
  details := some [("pendingJobs", .number snapshot.usageIngestPendingJobs)]

def usageIngestWorkerStaleAlert : OperationalAlert where
  kind := usageIngestWorkerStaleKind
  severity := .danger
  title := "Usage ingest worker lease is stale"
  message := "Queued usage jobs exist but the usage ingest worker lease is missing or expired."
  details := some [("leasePresent", .bool snapshot.usageIngestLeasePresent),
    ("secondsUntilExpiry", .number snapshot.usageIngestLeaseSecondsUntilExpiry),
    ("pendingJobs", .number snapshot.usageIngestPendingJobs)]

def MonitoringConfig.usageQueueStaleThresholdSeconds : Int :=
  max (config.leases.usageIngestQueueIntervalSeconds * 5) 300

def usageIngestOldPendingJobAlert : OperationalAlert where
  kind := usageIngestOldPendingJobKind
  severity := .warning
  title := "Usage ingest queue contains stale work"
  message :=
    s!"The oldest queued usage job is {snapshot.usageIngestOldestPendingAgeSeconds} second(s) old."
  details := some [("oldestPendingAgeSeconds", .number snapshot.usageIngestOldestPendingAgeSeconds),
    ("staleThresholdSeconds", .number config.usageQueueStaleThresholdSeconds)]

def billingReconciliationStaleAlert : OperationalAlert where
  kind := billingReconciliationStaleKind
  severity := .warning
  title := "Billing reconciliation lease is stale"
  message := "Stripe billing reconciliation is enabled but its worker lease is missing or expired."
  details := some [("leasePresent", .bool snapshot.billingReconciliationLeasePresent),
    ("secondsUntilExpiry", .number snapshot.billingReconciliationLeaseSecondsUntilExpiry)]

def billingOverageCollectionStaleAlert : OperationalAlert where
  kind := billingOverageCollectionStaleKind
  severity := .warning
  title := "Billing overage collection lease is stale"
  message := "Automated overage collection is enabled but its worker lease is missing or expired."
  details := some [("leasePresent", .bool snapshot.billingOverageCollectionLeasePresent),
    ("secondsUntilExpiry", .number snapshot.billingOverageCollectionLeaseSecondsUntilExpiry)]

def subscriptionsPastDueHighAlert : OperationalAlert where
  kind := subscriptionsPastDueHighKind
  severity := .warning
  title := "Past-due subscriptions exceed the warning threshold"
  message := s!"{snapshot.subscriptionsPastDue} subscription(s) are currently in PAST_DUE state."
  details := some [("pastDueSubscriptions", .number snapshot.subscriptionsPastDue),
    ("warningThreshold", .number pastDueSubscriptionWarningThreshold)]

/-- Each alert with its condition, in the order of the source. -/
def alertRules : List (Bool × OperationalAlert) :=
  [(decide (snapshot.usageIngestFailedJobs > 0), usageIngestFailedJobsAlert snapshot),
    (decide (snapshot.usageIngestPendingJobs ≥ usageQueueBacklogWarningThreshold),
      usageIngestBacklogAlert snapshot),
    (config.app.usageIngestQueueEnabled && decide (snapshot.usageIngestPendingJobs > 0) &&
      isStale snapshot.usageIngestLeasePresent snapshot.usageIngestLeaseSecondsUntilExpiry,
      usageIngestWorkerStaleAlert snapshot),
    (decide (snapshot.usageIngestPendingJobs > 0) &&
      decide (snapshot.usageIngestOldestPendingAgeSeconds ≥ config.usageQueueStaleThresholdSeconds),
      usageIngestOldPendingJobAlert config snapshot),
    (config.stripeJob config.app.billingReconciliationEnabled &&
      isStale snapshot.billingReconciliationLeasePresent
        snapshot.billingReconciliationLeaseSecondsUntilExpiry,
      billingReconciliationStaleAlert snapshot),
    (config.stripeJob config.app.billingOverageCollectionEnabled &&
      isStale snapshot.billingOverageCollectionLeasePresent
        snapshot.billingOverageCollectionLeaseSecondsUntilExpiry,
      billingOverageCollectionStaleAlert snapshot),
    (decide (snapshot.subscriptionsPastDue ≥ pastDueSubscriptionWarningThreshold),
      subscriptionsPastDueHighAlert snapshot)]

/-- The alerts whose condition holds. -/
def activeAlerts : List OperationalAlert :=
  ((alertRules config snapshot).filter (·.1)).map (·.2)

/-- Each rule has a kind of its own. -/
theorem alertRules_nodup : ((alertRules config snapshot).map (·.2.kind)).Nodup := by
  show [usageIngestFailedJobsKind, usageIngestBacklogKind, usageIngestWorkerStaleKind,
    usageIngestOldPendingJobKind, billingReconciliationStaleKind, billingOverageCollectionStaleKind,
    subscriptionsPastDueHighKind].Nodup
  decide

end Alerts

/-- `severityOrder` -/
def AlertSeverity.order : AlertSeverity → Nat
  | .danger => 0
  | .warning => 1

def sortAlerts (alerts : List OperationalAlert) : List OperationalAlert :=
  alerts.mergeSort fun a b => a.severity.order ≤ b.severity.order

/-- The alerts of a snapshot are of different kinds. -/
def deriveOperationalAlerts (snapshot : OperationalMetricsSnapshot) : ActiveAlerts where
  alerts := sortAlerts (activeAlerts config snapshot)
  nodup := by
    have hactive : ((activeAlerts config snapshot).map (·.kind)).Nodup := by
      rw [activeAlerts, List.map_map]
      exact (alertRules_nodup config snapshot).sublist (List.filter_sublist.map _)
    exact ((List.mergeSort_perm _ _).map _).nodup_iff.mpr hactive

def listOperationalAlerts (now : Int) : AlertOp ActiveAlerts := do
  let snapshot ← getMetricsSnapshot config now
  return deriveOperationalAlerts config snapshot

/-- `auditLog.count` of the snapshot. -/
def World.countAuditLogsSince (w : World) (since : Int) : Nat :=
  (w.auditLogs.rows.filter (since ≤ ·.createdAt)).length

/-- The snapshot with `auditLogsLast24h`, which no alert is derived from. -/
def getMetricsSnapshotWithAuditLogs (now : Int) : AlertOp (OperationalMetricsSnapshot × Nat) := do
  let snapshot ← getMetricsSnapshot config now
  let auditLogsLast24h ← readDatabase (·.countAuditLogsSince (now - 24 * 60 * 60 * 1000))
  return (snapshot, auditLogsLast24h)

end Monitoring

end HivePoint
