import HivePoint.Native.Schema

/-!
# Configuration

The values of `AppConfigService` that the modelled functions read. `env.schema.ts`
validates them at startup: the grace period is a non-negative and each retry delay a
positive integer.
-/

namespace HivePoint

/-- `Number.MAX_SAFE_INTEGER` -/
def maxSafeInteger : Int := 2 ^ 53 - 1

structure AppConfig where
  port : Nat
  paymentProvider : BillingProvider
  billingGracePeriodDays : Nat
  billingReconciliationEnabled : Bool
  billingManagedRetryEnabled : Bool
  billingManagedRetryBatchSize : Nat
  billingManagedRetryDelaysMinutes : List Nat
  billingOverageCollectionEnabled : Bool
  billingOverageCollectionBatchSize : Nat
  usageIngestSecret : String
  usageIngestQueueEnabled : Bool
  usageIngestQueueBatchSize : Nat
  apiKeySalt : String

end HivePoint
