import LevelChannel.ReadCommitted.Execution
import LevelChannel.Tables.Rows
import LevelChannel.Schema.Billing
import LevelChannel.Schema.Catalog
import LevelChannel.Schema.Lessons
import LevelChannel.Schema.Claims

namespace LevelChannel

open Tables

/-!
# The database of the application

All modelled tables, the row changes a statement can make, the locks it can wait
for, and the abbreviations in which the routes are written.

Row locks follow the four PostgreSQL modes.  An `update` of non-key columns takes
`noKeyUpdate`, `select .. for update` and `delete` take `update`, `for share` takes
`share`, and the foreign-key check of an `insert` takes `keyShare` on the row it
refers to.  The entry of a unique index is a lock target of its own: inserting it
waits for every transaction that is inserting or deleting the same entry.
-/

/-- All modelled tables, the clock, and the refunds the provider was sent.
`erasures` and `settling` are no tables; see their row types. -/
structure Db where
  clock : Nat
  catalog : Catalog
  orders : List PaymentOrder
  allocations : List PaymentAllocation
  reversals : List AllocationReversal
  attempts : List RefundAttempt
  gatewayRefunds : List GatewayRefund
  purchases : List PackagePurchase
  consumptions : List PackageConsumption
  slots : List LessonSlot
  completions : List LessonCompletion
  settlements : List LessonSettlement
  settlementCompletions : List SettlementCompletion
  earnings : List TeacherEarning
  erasures : List Erasure
  settling : List SettlePass
  claims : List PaymentClaim
  claimItems : List PaymentClaimItem

def Db.empty : Db :=
  ⟨0, Catalog.empty, [], [], [], [], [], [], [], [], [], [], [], [], [], [], [], []⟩

inductive Write where
  | order (change : Change PaymentOrder)
  | allocation (row : PaymentAllocation)
  | reversal (row : AllocationReversal)
  | attempt (change : Change RefundAttempt)
  | gatewayRefund (row : GatewayRefund)
  | purchase (change : Change PackagePurchase)
  | consumption (change : Change PackageConsumption)
  | slot (change : Change LessonSlot)
  | completion (change : Change LessonCompletion)
  | settlement (row : LessonSettlement)
  | settlementCompletion (row : SettlementCompletion)
  | erasure (row : Erasure)
  | settling (change : Change SettlePass)
  | claim (change : Change PaymentClaim)
  | claimItem (row : PaymentClaimItem)
  deriving DecidableEq

/-- The table a write changes. -/
inductive Table where
  | orders
  | allocations
  | reversals
  | attempts
  | gatewayRefunds
  | purchases
  | consumptions
  | slots
  | completions
  | settlements
  | settlementCompletions
  | erasures
  | settling
  | claims
  | claimItems
  deriving DecidableEq, Repr

def Write.table : Write -> Table
  | .order _ => .orders
  | .allocation _ => .allocations
  | .reversal _ => .reversals
  | .attempt _ => .attempts
  | .gatewayRefund _ => .gatewayRefunds
  | .purchase _ => .purchases
  | .consumption _ => .consumptions
  | .slot _ => .slots
  | .completion _ => .completions
  | .settlement _ => .settlements
  | .settlementCompletion _ => .settlementCompletions
  | .erasure _ => .erasures
  | .settling _ => .settling
  | .claim _ => .claims
  | .claimItem _ => .claimItems

/-- `insert into payment_allocations .. on conflict do nothing`, the only change this
table sees.  Whoever comes second waits for the first, so the conflict is decided when
the row is applied. -/
def Db.allocate (db : Db) (row : PaymentAllocation) : Db :=
  match get PaymentAllocation.key db.allocations row.key with
  | some _ => db
  | none => { db with allocations := db.allocations ++ [row] }

def Db.apply (db : Db) : Write -> Db
  | .order change => { db with orders := change.apply PaymentOrder.invoiceId db.orders }
  | .allocation row => db.allocate row
  | .reversal row => { db with reversals := db.reversals ++ [row] }
  | .attempt change => { db with attempts := change.apply RefundAttempt.id db.attempts }
  | .gatewayRefund row => { db with gatewayRefunds := db.gatewayRefunds ++ [row] }
  | .purchase change => { db with purchases := change.apply PackagePurchase.id db.purchases }
  | .consumption change =>
    { db with consumptions := change.apply PackageConsumption.slotId db.consumptions }
  | .slot change => { db with slots := change.apply LessonSlot.id db.slots }
  | .completion change =>
    { db with completions := change.apply LessonCompletion.id db.completions }
  | .settlement row => { db with settlements := db.settlements ++ [row] }
  | .settlementCompletion row =>
    { db with settlementCompletions := db.settlementCompletions ++ [row] }
  | .erasure row => { db with erasures := db.erasures ++ [row] }
  | .settling change => { db with settling := change.apply SettlePass.session db.settling }
  | .claim change => { db with claims := change.apply PaymentClaim.id db.claims }
  | .claimItem row => { db with claimItems := db.claimItems ++ [row] }

/-- What happens without a modelled session: time passes, the looked-up data
change, the payment provider's webhooks write orders and lesson allocations, teachers
open slots, and earnings are accrued. -/
inductive Drift where
  | tick (milliseconds : Nat)
  | catalog (catalog : Catalog)
  | slot (row : LessonSlot)
  | order (change : Change PaymentOrder)
  | allocation (row : PaymentAllocation)
  | earning (row : TeacherEarning)

/-- A slot a teacher opens has a new key, which is none that a session mints, and is
open, or is a personal event. -/
def Db.drift (db : Db) : Drift -> Db
  | .tick milliseconds => { db with clock := db.clock + milliseconds }
  | .catalog catalog => { db with catalog := catalog }
  | .slot row =>
    if (get LessonSlot.id db.slots row.id).isNone && row.id.minter.isNone &&
        (row.status = .open || (row.status = .personalEvent && row.isPersonalEvent)) then
      { db with slots := db.slots ++ [row] }
    else db
  | .order change => { db with orders := change.apply PaymentOrder.invoiceId db.orders }
  | .allocation row => db.allocate row
  | .earning row => { db with earnings := db.earnings ++ [row] }

/-! ## Locks -/

/-- The text an advisory lock key is hashed from.  Distinct texts are taken to
have distinct hashes; a collision would only make sessions wait more often. -/
inductive AdvisoryKey where
  | pkgConsume (learnerAccountId : UuidText)
  | pkgStack (accountId : UuidText) (durationMinutes : Nat)
  | payClaim (slotId : UuidText)
  | lessonSettle (teacherAccountId learnerAccountId : UuidText)
  deriving DecidableEq, Repr

/-- What a lock is on: a row, an entry of a unique index that is inserted, or an advisory key.
Waits for a row that leaves an index, as a cancelled slot does, are left out. -/
inductive LockTarget where
  | order (invoiceId : InvoiceId)
  | allocation (key : AllocationKey)
  | attempt (id : RowId)
  | attemptIdempotency (operatorAccountId : RowId) (idempotencyKey : String)
  | purchase (id : RowId)
  | purchaseOfOrder (invoiceId : InvoiceId)
  | consumption (slotId : RowId)
  | slot (id : RowId)
  | slotStart (teacherAccountId : RowId) (startAt : Nat)
  | completion (id : RowId)
  | completionOfSlot (slotId : RowId)
  | claim (id : RowId)
  | advisory (key : AdvisoryKey)
  deriving DecidableEq, Repr

inductive LockMode where
  | keyShare
  | share
  | noKeyUpdate
  | update
  deriving DecidableEq, Repr

def LockMode.conflicts : LockMode -> LockMode -> Bool
  | .keyShare, .update => true
  | .keyShare, _ => false
  | .share, .noKeyUpdate => true
  | .share, .update => true
  | .share, _ => false
  | .noKeyUpdate, .keyShare => false
  | .noKeyUpdate, _ => true
  | .update, _ => true

theorem LockMode.conflicts_comm (first second : LockMode) :
    first.conflicts second = second.conflicts first := by
  cases first <;> cases second <;> rfl

structure Lock where
  target : LockTarget
  mode : LockMode
  deriving DecidableEq, Repr

def Lock.conflict (first second : Lock) : Bool :=
  first.target = second.target && first.mode.conflicts second.mode

theorem Lock.conflict_comm (first second : Lock) :
    first.conflict second = second.conflict first := by
  simp only [Lock.conflict, LockMode.conflicts_comm first.mode, eq_comm (a := first.target)]

namespace LockTarget

variable (target : LockTarget)

/-- `select .. for update`, `delete`, a new entry of a unique index, an advisory lock. -/
def forUpdate : Lock := ⟨target, .update⟩

/-- `update` of columns that no foreign key refers to. -/
def forNoKeyUpdate : Lock := ⟨target, .noKeyUpdate⟩

def forKeyShare : Lock := ⟨target, .keyShare⟩

end LockTarget

/-- `pg_advisory_xact_lock`. -/
def AdvisoryKey.lock (key : AdvisoryKey) : Lock :=
  (LockTarget.advisory key).forUpdate

/-- The database as a store of read-committed sessions.  A session that is gone is no
longer settling anything. -/
def store : ReadCommitted.Store Db Lock Write Drift where
  apply := Db.apply
  drift := fun change db => db.drift change
  close := fun session db =>
    { db with settling := db.settling.filter fun pass => pass.session ≠ session }
  conflict := Lock.conflict
  conflict_comm := Lock.conflict_comm

/-! ## Programs of the application -/

inductive Label where
  | plain
  | attemptLookup (operatorAccountId : RowId) (idempotencyKey : String)
  | refundBound (allocation : AllocationKey) (refundedKopecks : Nat)
  | settleDedup (teacherId learnerAccountId : RowId) (amountKopecks : Nat)
  deriving DecidableEq

/-- What the payment provider's refund endpoint did with a request.  The outcomes
differ in what the provider did and in what the caller learns of it. -/
inductive GatewayAnswer where
  | accepted (transactionId : String)
  | acceptedUnheard (message : String)
  | declined (message : String) (reasonCode : Option String)
  | failed (message : String)
  | unsent (message : String)
  deriving DecidableEq

inductive Reply where
  | json (status : Nat) (rows : List RowId)
  | refused (status : Nat) (error message : String)
  | returned (outcome : String) (rows : List RowId)
  | thrown (message : String)
  deriving DecidableEq

def driverError : String := "database error"

abbrev Program := ReadCommitted.Program Db Lock Write Label GatewayAnswer Reply

abbrev State := ReadCommitted.State Db Lock Write Label GatewayAnswer Reply

abbrev Event := ReadCommitted.Event Drift GatewayAnswer

namespace Program

/-- A statement that locks and writes nothing.  It sees the committed state, which
is what a query on another connection reads, and the session's own view. -/
def query (onError : Program) (next : Db -> Db -> Program) : Program :=
  .statement .plain [] onError (fun _ _ => []) next

/-- `begin`: within the transaction `now()` stays what it is here. -/
def begin (onError : Program) (next : Nat -> Program) : Program :=
  query onError fun committed _ => next committed.clock

/-- `select .. for update` and its weaker forms: wait for the locks, then read. -/
def locking (locks : List Lock) (onError : Program) (next : Db -> Program) : Program :=
  .statement .plain locks onError (fun _ _ => []) fun _ own => next own

/-- `insert`, `update` or `delete` inside a transaction. -/
def execute (locks : List Lock) (onError : Program) (writes : Db -> List Write)
    (next : Db -> Program) : Program :=
  .statement .plain locks onError (fun _ own => writes own) fun _ own => next own

/-- A statement a constraint or a trigger may reject, with the message it raises.  A
rejected statement writes nothing and aborts its transaction. -/
def checkedOr (locks : List Lock) (onError : Program) (onReject : String -> Program)
    (raises : Db -> Option String) (writes : Db -> List Write) (next : Db -> Program) : Program :=
  .statement .plain locks onError
    (fun _ own => if (raises own).isSome then [] else writes own)
    fun _ own => match raises own with
      | some message => .rollback (onReject message)
      | none => next own

def checked (locks : List Lock) (onError : Program) (rejects : Db -> Bool)
    (writes : Db -> List Write) (next : Db -> Program) : Program :=
  .statement .plain locks onError (fun _ own => if rejects own then [] else writes own)
    fun _ own => if rejects own then .rollback onError else next own

/-- `Date.now()`, the clock of the application. -/
def dateNow (onError : Program) (next : Nat -> Program) : Program :=
  query onError fun committed _ => next committed.clock

end Program

end LevelChannel
