import HivePoint.ForStd.RelyGuarantee
import HivePoint.Native.Stripe

/-!
# The shared state and its statements

`World` is what the processes of the backend share: the database and the requests
Stripe has received. A service function is an `Op`, a program whose statements are
the `await`ed database statements and Stripe requests of the source, in its order.

Every statement meets an `Env`: the clock, the uuid a created row gets, Stripe's
answers, and the error with which the database refuses the statement, if it does.
-/

namespace HivePoint

/-! ### Errors -/

/-- The codes of `error.codes.ts` that the modelled functions throw. -/
inductive ErrorCode where
  | internalError | notFound | productNotFound | subscriptionNotFound | subscriptionNotActive
  | invoiceNotFound | usageIngestForbidden | notOwner | planNotFound | planInactive
  | productNotPublic | productNotReady | alreadySubscribed | subscriptionPending | conflict
  | unauthorized | validationError | unsafeExternalUrl | versionNotFound | forbidden
  | invalidApiKey | noActiveSubscription | quotaExceeded | rateLimitExceeded
  | gatewayTargetNotConfigured | gatewayUpstreamUnavailable | gatewayRequestBodyTooLarge
  | gatewayResponseBodyTooLarge | forbiddenRole | badRequest | keyNotFound
  deriving DecidableEq

structure AppError where
  code : ErrorCode
  message : String
  httpStatus : Nat
  /-- the entries of `details`, where the error has some -/
  details : List (String × String)
  deriving DecidableEq

inductive Err where
  | app (error : AppError)
  /-- the database did not execute the statement -/
  | database (message : String)
  /-- Prisma `P2002` with its `meta.target`, which is left out where no caller reads it -/
  | uniqueConstraint (target : List String)
  /-- Prisma `P2025` -/
  | recordNotFound
  | stripe (error : StripeError)
  /-- the `TypeError` of `new URL` and of `fetch` -/
  | typeError (message : String)
  /-- `new Error(message)` -/
  | error (message : String)
  deriving DecidableEq

/-- `error.message` -/
def Err.message : Err → String
  | .app e => e.message
  | .database m => m
  | .uniqueConstraint _ => "Unique constraint failed"
  | .recordNotFound => "Record to update not found."
  | .stripe e => e.message
  | .typeError m => m
  | .error m => m

/-- `describeError`, with the fallback text of each service. -/
def describeError (fallback : String) (error : Err) : String :=
  if error.message.trimAscii.isEmpty then fallback else error.message

/-! ### State and environment -/

/-- A database transaction that may hold row locks. -/
abbrev TxId := Nat

structure World where
  users : Table User
  products : Table ApiProduct
  apiVersions : Table ApiVersion
  plans : Table Plan
  subscriptions : Table Subscription
  invoices : Table Invoice
  apiKeys : Table ApiKey
  usageRecords : Table UsageRecord
  usageIngestJobs : Table UsageIngestJob
  usageDailyAggregates : Table UsageDailyAggregate
  usageEndpointDailyAggregates : Table UsageEndpointDailyAggregate
  auditLogs : Table AuditLog
  /-- added under new uuids, earliest first -/
  productViews : List ProductView
  /-- the `Subscription` rows held by `SELECT ... FOR UPDATE`, with their holder -/
  subscriptionLocks : List (Id × TxId)
  /-- the requests Stripe received, latest first, and whether it carried them out -/
  stripeLog : List (StripeRequest × Bool)

/-- The database after the migrations, with no row and no request sent. -/
def World.empty : World where
  users := .empty
  products := .empty
  apiVersions := .empty
  plans := .empty
  subscriptions := .empty
  invoices := .empty
  apiKeys := .empty
  usageRecords := .empty
  usageIngestJobs := .empty
  usageDailyAggregates := .empty
  usageEndpointDailyAggregates := .empty
  auditLogs := .empty
  productViews := []
  subscriptionLocks := []
  stripeLog := []

/-- What a statement meets when it is sent. -/
structure Env where
  /-- `new Date()` -/
  now : Int
  /-- the `@default(uuid())` of a row created now -/
  uuid : Id
  /-- the same of the second row that a transaction creates -/
  nextUuid : Id
  /-- the message with which the database refuses the statement -/
  dbError : Option String
  stripe : StripeApi

/-- A service function: its statements run one by one against the `World`. -/
abbrev Op := Prog World Env Err

/-! ### Statements -/

/-- `new Date()`. It is not awaited, but it is where the clock is read. -/
def clock : Op Int := Prog.stmt fun env w => (.ok env.now, w)

/-- A database statement that only reads. -/
def read {α : Type} (f : World → α) : Op α :=
  Prog.stmt fun env w =>
    match env.dbError with
    | some m => (.error (.database m), w)
    | none => (.ok (f w), w)

/-- A database statement that writes, or is refused without effect. -/
def mutate {α : Type} (f : Env → World → Except Err (α × World)) : Op α :=
  Prog.stmt fun env w =>
    match env.dbError with
    | some m => (.error (.database m), w)
    | none =>
      match f env w with
      | .ok (a, w') => (.ok a, w')
      | .error e => (.error e, w)

/-- Prisma's `Int` is an INT4 column, which holds a signed 32-bit integer. -/
def FitsInt4 (n : Int) : Prop := -2147483648 ≤ n ∧ n ≤ 2147483647

instance (n : Int) : Decidable (FitsInt4 n) := inferInstanceAs (Decidable (_ ∧ _))

/-- The refusal of a value that an INT4 column cannot hold. -/
def integerOutOfRange : Err := .database "integer out of range"

/-- The refusal of a SERIALIZABLE transaction that another one has come before (Prisma
    `P2034`). -/
def couldNotSerialize : Err :=
  .database
    "Transaction failed due to a write conflict or a deadlock. Please retry your transaction"

/-- A request to Stripe. -/
def callStripe {α : Type} (request : StripeRequest) (answer : StripeApi → Answer α) : Op α :=
  Prog.stmt fun env w =>
    match answer env.stripe with
    | .ok a => (.ok a, { w with stripeLog := (request, true) :: w.stripeLog })
    | .lost =>
      (.error (.stripe ⟨"StripeConnectionError", none,
        "An error occurred with our connection to Stripe."⟩),
        { w with stripeLog := (request, true) :: w.stripeLog })
    | .failed e => (.error (.stripe e), { w with stripeLog := (request, false) :: w.stripeLog })

/-- `prisma.subscription.update({ where: { id }, data })` on a state. -/
def World.updateSubscription (w : World) (id : Id) (data : Subscription → Subscription) :
    Except Err World :=
  if (w.subscriptions.find? id).isNone then .error .recordNotFound
  else
    match w.subscriptions.update? id data with
    | some t => .ok { w with subscriptions := t }
    | none => .error (.uniqueConstraint [])

/-- `prisma.invoice.update({ where: { id }, data })` on a state. -/
def World.updateInvoice (w : World) (id : Id) (data : Invoice → Invoice) : Except Err World :=
  if (w.invoices.find? id).isNone then .error .recordNotFound
  else
    match w.invoices.update? id data with
    | some t => .ok { w with invoices := t }
    | none => .error (.uniqueConstraint [])

/-- Do the amount and the overage of an invoice fit their columns? -/
structure Invoice.FitsColumns (row : Invoice) : Prop where
  amountCents : FitsInt4 row.amountCents
  overageRequests : ∀ n ∈ row.overageRequests, FitsInt4 n
  overageUnits : ∀ n ∈ row.overageUnits, FitsInt4 n

instance (row : Invoice) : Decidable row.FitsColumns :=
  decidable_of_iff (FitsInt4 row.amountCents ∧ (∀ n ∈ row.overageRequests, FitsInt4 n) ∧
      ∀ n ∈ row.overageUnits, FitsInt4 n)
    ⟨fun ⟨h₁, h₂, h₃⟩ => ⟨h₁, h₂, h₃⟩, fun h => ⟨h.amountCents, h.overageRequests, h.overageUnits⟩⟩

/-- `prisma.invoice.create({ data })` on a state. -/
def World.createInvoice (w : World) (row : Invoice) : Except Err World :=
  if ¬row.FitsColumns then .error integerOutOfRange
  else
    match w.invoices.insert? row with
    | some t => .ok { w with invoices := t }
    | none => .error (.uniqueConstraint [])

/-- `prisma.subscription.create({ data })` on a state. -/
def World.createSubscription (w : World) (row : Subscription) : Except Err World :=
  match w.subscriptions.insert? row with
  | some t => .ok { w with subscriptions := t }
  | none => .error (.uniqueConstraint [])

def updateSubscription (id : Id) (data : Subscription → Subscription) : Op Unit :=
  mutate fun _ w => (w.updateSubscription id data).map ((), ·)

def updateInvoice (id : Id) (data : Invoice → Invoice) : Op Unit :=
  mutate fun _ w => (w.updateInvoice id data).map ((), ·)

/-- The JavaScript truth value of a nullable string. -/
def truthy : Option String → Bool
  | some s => s ≠ ""
  | none => false

end HivePoint
