import LevelChannel.Schema.Text
import LevelChannel.Packages.Consumption

namespace LevelChannel

open Tables

/-!
# Refunds

The two refund routes of the administrator and the reconcile worker, over the
helpers of `lib/billing/refund-attempts.ts` and `lib/billing/reversals.ts`.

A gateway refund has three phases.  The first records a pending attempt in a
transaction that holds the allocation's row lock; the second calls the provider
with no transaction open; the third, again under the allocation's lock, books the
reversal and marks the attempt.  The routes are modelled from the point where the
origin, rate-limit and role checks have passed.
-/

namespace Db

def allocation? (db : Db) (key : AllocationKey) : Option PaymentAllocation :=
  get PaymentAllocation.key db.allocations key

def attempt? (db : Db) (id : RowId) : Option RefundAttempt :=
  get RefundAttempt.id db.attempts id

/-- `sum(refunded_kopecks)` over the reversals of an allocation. -/
def refundedKopecks (db : Db) (key : AllocationKey) : Nat :=
  total (fun row => row.allocation = key) AllocationReversal.refundedKopecks db.reversals

def attemptByIdempotency (db : Db) (operatorAccountId : RowId) (idempotencyKey : String) :
    Option RefundAttempt :=
  db.attempts.find? fun row =>
    row.operatorAccountId = operatorAccountId && row.idempotencyKey = some idempotencyKey

end Db

/-! ## Attempts and reversals -/

/-- The argument of `createPendingRefundAttempt`. -/
structure PendingRefund where
  allocation : AllocationKey
  refundedKopecks : Nat
  operatorAccountId : RowId
  idempotencyKey : Option String
  originalTransactionId : String
  reason : Option String

def PendingRefund.indexEntries (input : PendingRefund) : List Lock :=
  match input.idempotencyKey with
  | none => []
  | some key => [(LockTarget.attemptIdempotency input.operatorAccountId key).forUpdate]

namespace RefundAttempt

def ofPending (id : RowId) (now : Nat) (input : PendingRefund) : RefundAttempt where
  id := id
  allocation := input.allocation
  refundedKopecks := input.refundedKopecks
  operatorAccountId := input.operatorAccountId
  idempotencyKey := input.idempotencyKey
  status := .pending
  originalTransactionId := input.originalTransactionId
  gatewayRefundTransactionId := none
  reversalId := none
  reason := input.reason
  gatewayMessage := none
  gatewayReasonCode := none
  createdAt := now

variable (attempt : RefundAttempt)

def succeeded (gatewayRefundTransactionId : String) (reversalId : RowId) : RefundAttempt :=
  { attempt with
    status := .succeeded
    gatewayRefundTransactionId := some gatewayRefundTransactionId
    reversalId := some reversalId }

def gatewaySucceededDbFailed (gatewayRefundTransactionId message : String) : RefundAttempt :=
  { attempt with
    status := .gatewaySucceededDbFailed
    gatewayRefundTransactionId := some gatewayRefundTransactionId
    gatewayMessage := some message }

def declined (message : String) (reasonCode : Option String) : RefundAttempt :=
  { attempt with
    status := .declined
    gatewayMessage := some message
    gatewayReasonCode := reasonCode }

def failed (message : String) : RefundAttempt :=
  { attempt with status := .error, gatewayMessage := some message }

def reconciled (reversalId : RowId) : RefundAttempt :=
  { attempt with status := .succeeded, reversalId := some reversalId, gatewayMessage := none }

end RefundAttempt

namespace Program

/-- `update payment_refund_attempts set .. where id = $1`, with the table's check.
No mark looks at the status the row has. -/
def markAttempt (attemptId : RowId) (mark : RefundAttempt -> RefundAttempt)
    (onError next : Program) : Program :=
  checked [(LockTarget.attempt attemptId).forNoKeyUpdate] onError
    (fun own => match own.attempt? attemptId with
      | none => false
      | some row => !(mark row).terminalInvariants)
    (fun own => match own.attempt? attemptId with
      | none => []
      | some row => [.attempt (.replace (mark row))])
    fun _ => next

/-- `insert into payment_refund_attempts`, under the primary key, the unique index
on operator and idempotency key, and the check on the amount. -/
def insertPendingAttempt (id : RowId) (now : Nat) (input : PendingRefund) (onError : Program)
    (next : RefundAttempt -> Bool -> Program) : Program :=
  checked ((LockTarget.attempt id).forUpdate :: input.indexEntries) onError
    (fun own =>
      (own.attempt? id).isSome || input.refundedKopecks = 0 ||
        match input.idempotencyKey with
        | none => false
        | some key => (own.attemptByIdempotency input.operatorAccountId key).isSome)
    (fun _ => [.attempt (.insert (.ofPending id now input))])
    fun _ => next (.ofPending id now input) false

/-- `createPendingRefundAttempt`: an attempt already recorded under the operator's
key is returned as a replay, otherwise a pending one is inserted. -/
def createPendingRefundAttempt (id : RowId) (now : Nat) (input : PendingRefund)
    (onError : Program) (next : RefundAttempt -> Bool -> Program) : Program :=
  match input.idempotencyKey with
  | none => insertPendingAttempt id now input onError next
  | some key =>
    .statement (.attemptLookup input.operatorAccountId key) [] onError (fun _ _ => [])
      fun _ own => match own.attemptByIdempotency input.operatorAccountId key with
        | some existing => next existing true
        | none => insertPendingAttempt id now input onError next

/-- `createAllocationReversal`: the insert refers to the allocation row. -/
def createAllocationReversal (row : AllocationReversal) (onError next : Program) : Program :=
  checked [(LockTarget.allocation row.allocation).forKeyShare] onError
    (fun own => (own.allocation? row.allocation).isNone || row.refundedKopecks = 0)
    (fun _ => [.reversal row])
    fun _ => next

/-- `markAttemptSucceeded` reads the updated row back, so a missing row throws. -/
def markAttemptSucceeded (attemptId : RowId) (gatewayRefundTransactionId : String)
    (reversalId : RowId) (onError next : Program) : Program :=
  checked [(LockTarget.attempt attemptId).forNoKeyUpdate] onError
    (fun own => (own.attempt? attemptId).isNone)
    (fun own => match own.attempt? attemptId with
      | none => []
      | some row => [.attempt (.replace (row.succeeded gatewayRefundTransactionId reversalId))])
    fun _ => next

/-- `markAttemptGatewaySucceededDbFailed`, on a connection of its own. -/
def markAttemptGatewaySucceededDbFailed (attemptId : RowId)
    (gatewayRefundTransactionId message : String) (next : Program) : Program :=
  markAttempt attemptId (·.gatewaySucceededDbFailed gatewayRefundTransactionId message) next
    (.commit next next)

def markAttemptDeclined (attemptId : RowId) (message : String) (reasonCode : Option String)
    (onError next : Program) : Program :=
  markAttempt attemptId (·.declined message reasonCode) onError next

def markAttemptError (attemptId : RowId) (message : String) (onError next : Program) : Program :=
  markAttempt attemptId (·.failed message) onError next

end Program

/-! ## The gateway route -/

structure GatewayRefundRequest where
  enabled : Bool
  operatorAccountId : RowId
  paymentOrderId : Option InvoiceId
  kind : Option String
  targetId : Option UuidText
  refundedKopecks : Option JsonNumber
  reason : Option String
  idempotencyKeyHeader : Option String
  deriving DecidableEq

/-- The `Idempotency-Key` the attempt is recorded under. -/
def GatewayRefundRequest.idempotencyKey (request : GatewayRefundRequest) : Option String :=
  trimmedText 200 request.idempotencyKeyHeader

def RefundAttemptStatus.replayStatus : RefundAttemptStatus -> Nat
  | .succeeded => 201
  | .declined => 502
  | .error => 503
  | .gatewaySucceededDbFailed => 202
  | .pending => 200

/-- A gateway refund whose body has passed the checks of the route. -/
structure GatewayRefund.Input where
  operatorAccountId : RowId
  allocation : AllocationKey
  refundedKopecks : Nat
  reason : Option String
  idempotencyKey : Option String

def GatewayRefund.Input.pending (input : Input) (originalTransactionId : String) :
    PendingRefund where
  allocation := input.allocation
  refundedKopecks := input.refundedKopecks
  operatorAccountId := input.operatorAccountId
  idempotencyKey := input.idempotencyKey
  originalTransactionId := originalTransactionId
  reason := input.reason

namespace Program

open GatewayRefund (Input)

def gatewayRecord (input : Input) (attemptId : RowId) (accepted : Bool) : Write :=
  .gatewayRefund
    { attemptId := attemptId
      operatorAccountId := input.operatorAccountId
      idempotencyKey := input.idempotencyKey
      allocation := input.allocation
      amountKopecks := input.refundedKopecks
      accepted := accepted }

/-- `refundTransaction`.  Without credentials or a transaction id nothing is sent;
a lost or malformed response is an error although the provider may have accepted. -/
def refundTransaction (input : Input) (attemptId : RowId)
    (onSuccess : String -> Program) (onDeclined : String -> Option String -> Program)
    (onError : String -> Program) : Program :=
  .call .plain
    (fun _ answer => match answer with
      | .accepted _ => [gatewayRecord input attemptId true]
      | .acceptedUnheard _ => [gatewayRecord input attemptId true]
      | .declined _ _ => [gatewayRecord input attemptId false]
      | .failed _ => [gatewayRecord input attemptId false]
      | .unsent _ => [])
    (fun _ answer => match answer with
      | .accepted transactionId => onSuccess transactionId
      | .acceptedUnheard message => onError message
      | .declined message reasonCode => onDeclined message reasonCode
      | .failed message => onError message
      | .unsent message => onError message)

/-- The handler of the third phase: the refund stands at the provider, so the
attempt is marked for the reconcile worker.  A failure of the mark is swallowed. -/
def phaseThreeFailed (attemptId : RowId) (gatewayTxId message : String) : Program :=
  markAttemptGatewaySucceededDbFailed attemptId gatewayTxId message
    (.done (.refused 202 "gateway_succeeded_db_failed"
      "CloudPayments accepted the refund but our DB write failed. The attempt is recorded for reconciliation; verify on the CP dashboard."))

/-- The third phase after the provider has accepted. -/
def bookGatewayRefund (session : Nat) (input : Input) (attemptId : RowId)
    (gatewayTxId : String) : Program :=
  let onError := phaseThreeFailed attemptId gatewayTxId driverError
  let reversal : AllocationReversal :=
    { id := .minted session 1
      allocation := input.allocation
      refundedKopecks := input.refundedKopecks
      refundedByAccountId := input.operatorAccountId
      reason := input.reason
      bookedFor := some attemptId }
  locking [(LockTarget.allocation input.allocation).forUpdate] onError fun own =>
    match own.allocation? input.allocation with
    | none =>
      .rollback (phaseThreeFailed attemptId gatewayTxId
        "alloc disappeared between Phase 1 and Phase 3")
    | some allocRow =>
      query onError fun _ own =>
        if own.refundedKopecks input.allocation + input.refundedKopecks >
            allocRow.amountKopecks then
          .rollback (phaseThreeFailed attemptId gatewayTxId
            "refund exceeds allocation after CP success")
        else
          createAllocationReversal reversal onError
            (markAttemptSucceeded attemptId gatewayTxId reversal.id onError
              (.commit onError (.done (.json 201 [reversal.id, attemptId]))))

/-- The second and third phase, from the attempt the first one handed over. -/
def finishGatewayRefund (session : Nat) (input : Input) (attemptId : RowId) : Program :=
  refundTransaction input attemptId
    (bookGatewayRefund session input attemptId)
    (fun message reasonCode =>
      let answer : Program := .done (.refused 502 "gateway_declined" message)
      markAttemptDeclined attemptId message reasonCode answer (.commit answer answer))
    (fun message =>
      let answer : Program := .done (.refused 503 "gateway_error" message)
      markAttemptError attemptId message answer (.commit answer answer))

/-- The first phase: lock the allocation, check the bound, record the attempt.
The attempt handed on is the one `createPendingRefundAttempt` returns, whether it
was inserted or found. -/
def beginGatewayRefund (session : Nat) (input : Input) : Program :=
  let onError : Program := .done (.refused 500 "internal_error" "")
  let refuse (status : Nat) (error message : String) : Program :=
    .rollback (.done (.refused status error message))
  begin onError fun now =>
    locking [(LockTarget.allocation input.allocation).forUpdate] onError fun own =>
      match own.allocation? input.allocation with
      | none =>
        refuse 404 "allocation_not_found"
          "No payment_allocations row for the supplied composite key."
      | some allocRow =>
        .statement (.refundBound input.allocation input.refundedKopecks) [] onError (fun _ _ => []) fun _ own =>
          let priorRefunded := own.refundedKopecks input.allocation
          if priorRefunded + input.refundedKopecks > allocRow.amountKopecks then
            refuse 400 "refund_exceeds_allocation"
              s!"Sum of refunds would exceed allocation: prior={priorRefunded}, this={input.refundedKopecks}, allocation={allocRow.amountKopecks}."
          else
            query onError fun _ own =>
              match get PaymentOrder.invoiceId own.orders input.allocation.paymentOrderId with
              | none =>
                refuse 404 "order_not_found"
                  "payment_orders row not found for the supplied invoice_id."
              | some order =>
                match order.providerTransactionId with
                | none =>
                  refuse 422 "no_transaction_id"
                    "Order has no provider_transaction_id — gateway refund unavailable. Use the manual flow."
                | some transactionId =>
                  createPendingRefundAttempt (.minted session 0) now (input.pending transactionId)
                    onError
                    fun attempt _ =>
                      .commit onError (finishGatewayRefund session input attempt.id)

/-- `POST /api/admin/refunds/gateway-initiated`. -/
def gatewayRefund (session : Nat) (request : GatewayRefundRequest) : Program :=
  let refuse (status : Nat) (error message : String) : Program :=
    .done (.refused status error message)
  if request.enabled = false then
    refuse 503 "gateway_refund_disabled"
      "Gateway-initiated refund is disabled. Use the manual flow at /api/admin/refunds."
  else
    match request.paymentOrderId, request.kind, request.targetId,
        positiveInteger request.refundedKopecks with
    | some paymentOrderId, some kind, some targetId, some refundedKopecks =>
      if kind = "" then
        refuse 400 "invalid_body"
          "paymentOrderId, kind, targetId, refundedKopecks (positive int) are required"
      else if kind ≠ "lesson_slot" then
        refuse 400 "unsupported_kind"
          "Gateway-initiated refund supports only kind='lesson_slot'. Use the manual endpoint for kind='package'."
      else
        let input : Input :=
          { operatorAccountId := request.operatorAccountId
            allocation := ⟨paymentOrderId, .lessonSlot, targetId⟩
            refundedKopecks := refundedKopecks
            reason := trimmedText 500 request.reason
            idempotencyKey := request.idempotencyKey }
        match input.idempotencyKey with
        | none => beginGatewayRefund session input
        | some key =>
          query (.done (.thrown driverError)) fun committed _ =>
            match committed.attemptByIdempotency request.operatorAccountId key with
            | some cached => .done (.json cached.status.replayStatus [cached.id])
            | none => beginGatewayRefund session input
    | _, _, _, _ =>
      refuse 400 "invalid_body"
        "paymentOrderId, kind, targetId, refundedKopecks (positive int) are required"

end Program

/-- The body of a manual refund, as sent.  `refundedAtIso` is what the date parser
makes of the field: absent, not a date, or a time. -/
structure ManualRefundRequest where
  operatorAccountId : RowId
  paymentOrderId : Option InvoiceId
  kind : Option String
  targetId : Option UuidText
  refundedKopecks : Option JsonNumber
  reason : Option String
  refundedAtIso : Option (Option Nat)
  deriving DecidableEq

namespace Program

/-- The transaction of the manual route. -/
def recordManualRefund (session : Nat) (operatorAccountId : RowId) (allocation : AllocationKey)
    (refundedKopecks : Nat) (reason : Option String) : Program :=
  let onError : Program := .done (.refused 500 "internal_error" "")
  let refuse (status : Nat) (error message : String) : Program :=
    .rollback (.done (.refused status error message))
  let reversal : AllocationReversal :=
    { id := .minted session 0
      allocation := allocation
      refundedKopecks := refundedKopecks
      refundedByAccountId := operatorAccountId
      reason := reason
      bookedFor := none }
  let finish : Program := .commit onError (.done (.json 201 [reversal.id]))
  begin onError fun now =>
    locking [(LockTarget.allocation allocation).forUpdate] onError fun own =>
      match own.allocation? allocation with
      | none =>
        refuse 404 "allocation_not_found"
          "No payment_allocations row for the supplied composite key."
      | some allocRow =>
        .statement (.refundBound allocation refundedKopecks) [] onError (fun _ _ => []) fun _ own =>
          let priorRefunded := own.refundedKopecks allocation
          if priorRefunded + refundedKopecks > allocRow.amountKopecks then
            refuse 400 "refund_exceeds_allocation"
              s!"Sum of refunds would exceed allocation: prior={priorRefunded}, this={refundedKopecks}, allocation={allocRow.amountKopecks}."
          else if allocation.kind = .package ∧ refundedKopecks ≠ allocRow.amountKopecks then
            refuse 400 "partial_package_refund_not_supported"
              s!"Package refunds must be full-amount; got {refundedKopecks} of {allocRow.amountKopecks}."
          else
            createAllocationReversal reversal onError
              (match allocation.kind with
                | .lessonSlot => finish
                | .package =>
                  restoreAllConsumptionsForPurchase now allocation.targetId.id .admin
                    (some (reason.getD "admin_package_refund")) onError finish)

/-- `POST /api/admin/refunds`. -/
def manualRefund (session : Nat) (request : ManualRefundRequest) : Program :=
  let refuse (status : Nat) (error message : String) : Program :=
    .done (.refused status error message)
  let reason := trimmedText 500 request.reason
  match request.paymentOrderId, request.kind, request.targetId,
      positiveInteger request.refundedKopecks with
  | some paymentOrderId, some kind, some targetId, some refundedKopecks =>
    if kind = "" then
      refuse 400 "invalid_body"
        "paymentOrderId, kind, targetId, refundedKopecks (positive int) are required"
    else
      match (if kind = "lesson_slot" then some AllocationKind.lessonSlot
        else if kind = "package" then some .package else none) with
      | none =>
        refuse 400 "unsupported_kind"
          s!"Refund for kind='{kind}' is not supported — only 'lesson_slot' and 'package' are."
      | some allocationKind =>
        if request.refundedAtIso = some none then
          refuse 400 "invalid_refunded_at" "refundedAtIso must be ISO 8601"
        else
          query (.done (.thrown driverError)) fun committed _ =>
            let provider :=
              (get PaymentOrder.invoiceId committed.orders paymentOrderId).map
                PaymentOrder.provider
            if provider = some .adminGrant then
              refuse 422 "non_money_order_not_refundable"
                "Этот заказ — admin grant (не платный). Используйте PKG-ADMIN-VOID для отмены, а не маршрут возвратов."
            else if provider = some .teacherGrant then
              refuse 422 "non_money_order_not_refundable"
                "Этот заказ не платный — для отмены воспользуйтесь revoke в кабинете учителя."
            else
              recordManualRefund session request.operatorAccountId
                ⟨paymentOrderId, allocationKind, targetId⟩ refundedKopecks reason
  | _, _, _, _ =>
    refuse 400 "invalid_body"
      "paymentOrderId, kind, targetId, refundedKopecks (positive int) are required"

/-- `reconcileGatewaySucceededDbFailed` for one attempt.  An error leaves the
attempt as it is, and the worker goes on with `next` in every case. -/
def reconcileGatewaySucceededDbFailed (reversalId attemptId : RowId) (next : Program) : Program :=
  locking [(LockTarget.attempt attemptId).forUpdate] next fun own =>
    match (own.attempt? attemptId).filter fun row => row.status = .gatewaySucceededDbFailed with
    | none => .rollback next
    | some attempt =>
      locking [(LockTarget.allocation attempt.allocation).forUpdate] next fun own =>
        match own.allocation? attempt.allocation with
        | none =>
          markAttempt attemptId (·.failed "reconcile: allocation row missing") next
            (.commit next next)
        | some allocRow =>
          query next fun _ own =>
            let priorRefunded := own.refundedKopecks attempt.allocation
            if priorRefunded + attempt.refundedKopecks > allocRow.amountKopecks then
              markAttempt attemptId
                (fun row => { row with
                  gatewayMessage := some s!"reconcile: prior={priorRefunded} + this={attempt.refundedKopecks} > allocation={allocRow.amountKopecks}; manual reconciliation required" })
                next (.commit next next)
            else
              createAllocationReversal
                { id := reversalId
                  allocation := attempt.allocation
                  refundedKopecks := attempt.refundedKopecks
                  refundedByAccountId := attempt.operatorAccountId
                  reason := attempt.reason
                  bookedFor := some attemptId }
                next
                (markAttempt attemptId (·.reconciled reversalId) next (.commit next next))

/-- `reconcilePendingTimeout` for one attempt. -/
def reconcilePendingTimeout (attemptId : RowId) (next : Program) : Program :=
  execute [(LockTarget.attempt attemptId).forNoKeyUpdate] next
    (fun own => match own.attempt? attemptId with
      | none => []
      | some row =>
        if row.status = .pending then
          [.attempt (.replace (row.failed
            "reconcile: pending timed out; manual reconciliation required via CP dashboard"))]
        else [])
    fun _ => .commit next next

/-- The stuck attempts of one sweep, in order; the reversal of the n-th one gets the
n-th key the session mints. -/
def reconcileStuck (session : Nat) : Nat -> List RowId -> Program -> Program
  | _, [], next => next
  | number, attemptId :: rest, next =>
    reconcileGatewaySucceededDbFailed (.minted session number) attemptId
      (reconcileStuck session (number + 1) rest next)

def reconcilePending : List RowId -> Program -> Program
  | [], next => next
  | attemptId :: rest, next => reconcilePendingTimeout attemptId (reconcilePending rest next)

/-- The oldest attempts a condition selects: `order by created_at asc limit ..`. -/
def oldestAttempts (batchSize : Nat) (attempts : List RefundAttempt)
    (where_ : RefundAttempt -> Bool) : List RowId :=
  (((attempts.filter where_).mergeSort fun first second => first.createdAt ≤ second.createdAt).take
    batchSize).map RefundAttempt.id

/-- `runRefundReconcile`, the sweep over stuck and timed-out attempts. -/
def runRefundReconcile (session pendingTimeoutMinutes batchSize : Nat) : Program :=
  let failed : Program := .done (.thrown driverError)
  query failed fun committed _ =>
    let stuck := oldestAttempts batchSize committed.attempts fun row =>
      row.status = .gatewaySucceededDbFailed
    query failed fun committed _ =>
      let pending := oldestAttempts batchSize committed.attempts fun row =>
        row.status = .pending &&
          row.createdAt + pendingTimeoutMinutes * 60000 < committed.clock
      reconcileStuck session 0 stuck
        (reconcilePending pending (.done (.returned "summary" (stuck ++ pending))))

end Program

end LevelChannel
