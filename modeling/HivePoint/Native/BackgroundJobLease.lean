import HivePoint.ForStd.Prog
import HivePoint.ForStd.Table
import HivePoint.ForStd.Lease

/-!
# The leases of the background jobs

`tryAcquireLease`, which six workers carry word for word apart from the name of their lease,
the interval that its duration is computed from, and whether a transaction conflict is
caught. The transaction is SERIALIZABLE: it takes effect as one statement, or fails.
-/

namespace HivePoint

structure BackgroundJobLease where
  name : String
  ownerId : String
  expiresAt : Int
  deriving DecidableEq

instance : Row BackgroundJobLease String where
  key := (·.name)
  uniques := []

inductive LeaseError where
  /-- Prisma `P2034` -/
  | transactionConflict
  | database (message : String)
  deriving DecidableEq

/-- The table of leases, the shared clock, and the acquisitions that returned `true`, latest
    first, each with the name of its lease. -/
structure LeaseWorld where
  leases : Table BackgroundJobLease
  clock : Int
  acquired : List (String × Grant String Int)

structure LeaseEnv where
  /-- `new Date()` -/
  now : Int
  /-- why the database does not commit the transaction -/
  transactionError : Option LeaseError

abbrev LeaseOp := Prog LeaseWorld LeaseEnv LeaseError

/-! ### The transaction -/

/-- `backgroundJobLease.updateMany` with the columns of `lease` as its `where`: how many rows
    it updates, and the table it leaves. -/
def updateManyLeases (lease : BackgroundJobLease) (ownerId : String) (expiresAt : Int)
    (leases : Table BackgroundJobLease) : Nat × Table BackgroundJobLease :=
  match leases.find? lease.name with
  | none => (0, leases)
  | some row =>
    if row.ownerId = lease.ownerId && row.expiresAt = lease.expiresAt then
      match leases.update? lease.name fun row => { row with ownerId, expiresAt } with
      | some leases => (1, leases)
      | none => (0, leases)
    else (0, leases)

/-- The body of the transaction: whether the lease was acquired, and the table it leaves. -/
def acquireLease (leaseName leaseOwnerId : String) (now expiresAt : Int)
    (leases : Table BackgroundJobLease) : Bool × Table BackgroundJobLease :=
  match leases.find? leaseName with
  | none =>
    match leases.insert? ⟨leaseName, leaseOwnerId, expiresAt⟩ with
    | some leases => (true, leases)
    -- `P2002`
    | none => (false, leases)
  | some lease =>
    if lease.ownerId ≠ leaseOwnerId && lease.expiresAt > now then (false, leases)
    else
      let (count, leases) := updateManyLeases lease leaseOwnerId expiresAt leases
      (count = 1, leases)

/-- `new Date()` -/
def leaseClock : LeaseOp Int := Prog.stmt fun env w => (.ok env.now, { w with clock := env.now })

/-- The `$transaction`. -/
def leaseTransaction (leaseName leaseOwnerId : String) (now expiresAt : Int) : LeaseOp Bool :=
  Prog.stmt fun env w =>
    match env.transactionError with
    | some error => (.error error, w)
    | none =>
      match acquireLease leaseName leaseOwnerId now expiresAt w.leases with
      | (true, leases) =>
        (.ok true, { w with
          leases := leases
          acquired := (leaseName, ⟨leaseOwnerId, now, expiresAt⟩) :: w.acquired })
      | (false, leases) => (.ok false, { w with leases := leases })

/-! ### The workers -/

/-- The values of `AppConfigService` that the workers compute the duration of their leases from. -/
structure LeaseConfig where
  usageIngestQueueIntervalSeconds : Nat
  billingOverageCollectionIntervalSeconds : Nat
  billingReconciliationIntervalSeconds : Nat
  billingManagedRetryIntervalSeconds : Nat
  alertDeliveryIntervalSeconds : Nat
  operationalMetricsHistoryIntervalSeconds : Nat
  deriving DecidableEq

inductive BackgroundJob where
  | usageIngest | overageCollection | reconciliation | managedRetry | alertDelivery | metricsHistory
  deriving DecidableEq

/-- `LEASE_NAME` -/
def BackgroundJob.leaseName : BackgroundJob → String
  | .usageIngest => "usage:ingest-queue"
  | .overageCollection => "billing:overage-collection"
  | .reconciliation => "billing:stripe-reconciliation"
  | .managedRetry => "billing:managed-retry"
  | .alertDelivery => "observability:alert-delivery"
  | .metricsHistory => "observability:metrics-history"

def BackgroundJob.intervalSeconds (config : LeaseConfig) : BackgroundJob → Nat
  | .usageIngest => config.usageIngestQueueIntervalSeconds
  | .overageCollection => config.billingOverageCollectionIntervalSeconds
  | .reconciliation => config.billingReconciliationIntervalSeconds
  | .managedRetry => config.billingManagedRetryIntervalSeconds
  | .alertDelivery => config.alertDeliveryIntervalSeconds
  | .metricsHistory => config.operationalMetricsHistoryIntervalSeconds

/-- Do the worker's `catch` clauses turn a transaction conflict into `false`? -/
def BackgroundJob.catchesConflict : BackgroundJob → Bool
  | .overageCollection | .reconciliation | .managedRetry => true
  | .usageIngest | .alertDelivery | .metricsHistory => false

def BackgroundJob.getLeaseDurationMilliseconds (config : LeaseConfig) (job : BackgroundJob) : Int :=
  max (job.intervalSeconds config * 2) 60 * 1000

def isRetryableLeaseError (error : LeaseError) : Bool := error = .transactionConflict

def BackgroundJob.tryAcquireLease (config : LeaseConfig) (job : BackgroundJob)
    (leaseOwnerId : String) : LeaseOp Bool := do
  let now ← leaseClock
  let expiresAt := now + job.getLeaseDurationMilliseconds config
  tryCatch (leaseTransaction job.leaseName leaseOwnerId now expiresAt) fun error =>
    if job.catchesConflict && isRetryableLeaseError error then pure false else throw error

end HivePoint
