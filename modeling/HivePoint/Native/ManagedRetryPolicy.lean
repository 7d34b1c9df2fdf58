import HivePoint.Native.Schema

/-!
# The managed retry schedule

`billing-managed-retry.policy.ts`: the schedule of payment retries of a past-due
renewal, kept in the `managedRetry*` columns of its invoice.
-/

namespace HivePoint

def clearManagedRetryState : ManagedRetryState where
  managedRetryCount := 0
  managedNextRetryAt := none
  managedLastRetryAt := none
  managedRetryExhaustedAt := none
  managedLastRetryError := none

/-- The time of the retry after `retryCount` retries: `none` once the delays are used up. -/
def resolveManagedRetryAt (retryCount : Nat) (referenceTime : Int) (delayMinutes : List Nat) :
    Option Int :=
  match delayMinutes[retryCount]? with
  | none | some 0 => none
  | some delay => some (referenceTime + delay * 60 * 1000)

def createInitialManagedRetryState (referenceTime : Int) (delayMinutes : List Nat) :
    ManagedRetryState :=
  let nextRetryAt := resolveManagedRetryAt 0 referenceTime delayMinutes
  { managedRetryCount := 0
    managedNextRetryAt := nextRetryAt
    managedLastRetryAt := none
    managedRetryExhaustedAt := if nextRetryAt.isSome then none else some referenceTime
    managedLastRetryError := none }

def createManagedRetryStateAfterAttempt (currentRetryCount : Nat) (attemptedAt : Int)
    (delayMinutes : List Nat) (errorMessage : Option String) : ManagedRetryState :=
  let nextRetryCount := currentRetryCount + 1
  let nextRetryAt := resolveManagedRetryAt nextRetryCount attemptedAt delayMinutes
  { managedRetryCount := nextRetryCount
    managedNextRetryAt := nextRetryAt
    managedLastRetryAt := some attemptedAt
    managedRetryExhaustedAt := if nextRetryAt.isSome then none else some attemptedAt
    managedLastRetryError := errorMessage }

end HivePoint
