import HivePoint.ForStd.Pool
import HivePoint.Native.World

/-!
# Database clients and interactive transactions

The usage services take a `UsageDbClient`: the database itself, where a statement
takes effect when it is sent, or an open `$transaction`, whose writes stay pending
until it commits. At the isolation level READ COMMITTED, which is the database's
default, each statement of a transaction sees what is committed when it is sent,
and its own pending writes on top.
-/

namespace HivePoint

/-! ### Clients -/

/-- Where database statements can be sent. -/
class DbClient (m : Type → Type) where
  query {α : Type} : (World → α) → m α
  command : (Env → World → Except Err World) → m Unit

instance : DbClient Op where
  query := read
  command f := mutate fun env w => (f env w).map ((), ·)

/-- The writes of an open transaction, as the change they will make to what is
    committed. Concurrent commits come first, so an `increment` adds to them. -/
abbrev Pending := World → Except Err World

/-- A part of an open transaction. -/
abbrev TxM := StateT Pending Op

/-- Send a statement of an open transaction. -/
def txStatement {α : Type} (f : Env → World → Except Err α) (pending : Pending) : Op α :=
  Prog.stmt fun env w =>
    match env.dbError with
    | some m => (.error (.database m), w)
    | none => (pending w >>= f env, w)

instance : DbClient TxM where
  query f := fun pending => do
    let a ← txStatement (fun _ w => .ok (f w)) pending
    return (a, pending)
  command f := fun pending => do
    -- the statement is executed now, and again as a part of what the commit does
    let env ← Prog.stmt fun env w =>
      match env.dbError with
      | some m => (.error (.database m), w)
      | none => ((pending w >>= f env).map fun _ => env, w)
    return ((), fun w => pending w >>= f env)

/-! ### Row locks -/

def World.lockSubscription (w : World) (tx : TxId) (subscriptionId : Id) : World :=
  { w with subscriptionLocks := (subscriptionId, tx) :: w.subscriptionLocks }

def World.releaseLocks (w : World) (tx : TxId) : World :=
  { w with subscriptionLocks := w.subscriptionLocks.filter fun lock => lock.2 ≠ tx }

/-- `SELECT 1 FROM "Subscription" WHERE "id" = ... FOR UPDATE`. The scheduler keeps the
    statement waiting while another transaction holds the row. -/
def selectForUpdate (tx : TxId) (subscriptionId : Id) : TxM Unit := fun pending => do
  mutate fun _ w => .ok ((), w.lockSubscription tx subscriptionId)
  return ((), pending)

/-! ### Commit and rollback -/

/-- Make the pending writes visible and release the locks. A commit that fails changes
    nothing. -/
def commit (tx : TxId) (pending : Pending) : Op Unit :=
  Prog.stmt fun env w =>
    match env.dbError with
    | some m => (.error (.database m), w.releaseLocks tx)
    | none =>
      match pending w with
      | .ok w' => (.ok (), w'.releaseLocks tx)
      | .error e => (.error e, w.releaseLocks tx)

def rollback (tx : TxId) : Op Unit := Prog.stmt fun _ w => (.ok (), w.releaseLocks tx)

/-- A transaction of which `rest` is still to be done. -/
def runTransaction {α : Type} (tx : TxId) (rest : Op (α × Pending)) : Op α := do
  let (a, pending) ← tryCatch rest fun error => do
    rollback tx
    throw error
  commit tx pending
  return a

/-- `prisma.$transaction(async (tx) => ...)` -/
def transaction {α : Type} (tx : TxId) (body : TxM α) : Op α := runTransaction tx (body .ok)

/-- What the database lets transaction `tx` do while others hold locks: it neither changes
    nor locks a row that another transaction has locked. -/
def World.respectsLocks (tx : TxId) (w w' : World) : Bool :=
  w.subscriptionLocks.all fun lock =>
    lock.2 = tx ||
      (w'.subscriptions.find? lock.1 = w.subscriptions.find? lock.1 &&
        (lock.1, tx) ∉ w'.subscriptionLocks)

/-- Concurrent transactions and single statements, at READ COMMITTED. A process that dies
    loses its transaction. -/
def readCommitted : Scheduler TxId World Env where
  permits tx _ w w' := w.respectsLocks tx w'
  cleanup tx w := w.releaseLocks tx

end HivePoint
