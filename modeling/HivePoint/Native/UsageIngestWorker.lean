import HivePoint.ForStd.Crew
import HivePoint.Native.UsageService

/-!
# UsageIngestWorkerService

The worker of `usage-ingest-worker.service.ts`, which records the queued usage. The lease
is taken before a cycle starts; a cycle is a `BatchJob`.
-/

namespace HivePoint

/-- The columns that `drainQueue` selects. -/
structure QueueJob where
  id : Id
  subscriptionId : Id
  occurredAt : Int
  endpoint : String
  requestCount : Int
  attempts : Nat
  deriving DecidableEq

def maxRetryDelaySeconds : Int := 300
def minRetryDelaySeconds : Int := 30

def getRetryDelayMilliseconds (attempts : Nat) : Int :=
  let delaySeconds :=
    min maxRetryDelaySeconds (max minRetryDelaySeconds (attempts * minRetryDelaySeconds))
  delaySeconds * 1000

def isDuplicateSourceJobError : Err → Bool
  | .uniqueConstraint target => target.contains "sourceJobId"
  | _ => false

/-! ### Processing a job -/

/-- `usageIngestJob.update({ where: { id }, data })` on a state. -/
def World.updateUsageIngestJob (w : World) (id : Id) (data : UsageIngestJob → UsageIngestJob) :
    Except Err World :=
  if (w.usageIngestJobs.find? id).isNone then .error .recordNotFound
  else
    match w.usageIngestJobs.update? id data with
    | some t => .ok { w with usageIngestJobs := t }
    | none => .error (.uniqueConstraint [])

def processedJob (processedAt : Int) (row : UsageIngestJob) : UsageIngestJob :=
  { row with status := .processed, processedAt := some processedAt, lastError := none }

def markJobProcessed (jobId : Id) : Op Unit := do
  let processedAt ← clock
  DbClient.command fun _ w => w.updateUsageIngestJob jobId (processedJob processedAt)

def failedJob (attempts : Nat) (availableAt : Int) (error : Err) (row : UsageIngestJob) :
    UsageIngestJob :=
  { row with
    status := .failed
    attempts
    availableAt
    lastError := some ((describeError "Unknown usage ingest error" error).take 1000).toString }

def markJobFailed (jobId : Id) (attempts : Nat) (error : Err) : Op Unit := do
  let now ← clock
  let availableAt := now + getRetryDelayMilliseconds attempts
  DbClient.command fun _ w =>
    w.updateUsageIngestJob jobId (failedJob attempts availableAt error)

/-- What the transaction of `processJob` records. -/
def jobRecord (job : QueueJob) : UsageRecordWriteInput where
  subscriptionId := job.subscriptionId
  occurredAt := job.occurredAt
  endpoint := job.endpoint
  requestCount := job.requestCount
  sourceJobId := some job.id

/-- The body of the transaction of `processJob`. -/
def recordJob (job : QueueJob) : TxM Unit := do
  recordUsageInTransaction (jobRecord job)
  let processedAt ← liftM clock
  DbClient.command fun _ w => w.updateUsageIngestJob job.id (processedJob processedAt)

/-- `processJob`, with its own transaction `tx`. -/
def processJob (tx : TxId) (job : QueueJob) : Op Unit :=
  tryCatch (transaction tx (recordJob job)) fun error => do
    if isDuplicateSourceJobError error then markJobProcessed job.id
    else do
      markJobFailed job.id (job.attempts + 1) error
      throw error

/-! ### The cycle -/

def isDueJob (now : Int) (job : UsageIngestJob) : Bool :=
  (job.status = .pending || job.status = .failed) && job.availableAt ≤ now

/-- `availableAt: 'asc'`, `createdAt: 'asc'` -/
def jobOrder (left right : UsageIngestJob) : Bool :=
  left.availableAt < right.availableAt ||
    (left.availableAt = right.availableAt && left.createdAt ≤ right.createdAt)

def queueJob (job : UsageIngestJob) : QueueJob where
  id := job.id
  subscriptionId := job.subscriptionId
  occurredAt := job.occurredAt
  endpoint := job.endpoint
  requestCount := job.requestCount
  attempts := job.attempts

section Config

variable (config : AppConfig)

def selectDueJobs (env : Env) (w : World) : Except Err (List QueueJob) :=
  match env.dbError with
  | some m => .error (.database m)
  | none =>
    .ok <| (((w.usageIngestJobs.rows.filter (isDueJob env.now)).mergeSort jobOrder).take
      config.usageIngestQueueBatchSize).map queueJob

/-- One cycle of a worker that uses the transaction `tx`; without the queue it does nothing. -/
def usageIngestJob (tx : TxId) : BatchJob QueueJob World Env Err where
  queries := if config.usageIngestQueueEnabled then [selectDueJobs config] else []
  handle := processJob tx

def drainQueue (tx : TxId) : Op Unit := (usageIngestJob config tx).cycle

end Config

end HivePoint
