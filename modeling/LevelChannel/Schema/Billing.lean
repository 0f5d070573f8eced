import LevelChannel.Schema.Identifiers

namespace LevelChannel

/-!
# Billing tables

Rows of the payment ledger and of the package ledger.  Columns no modelled
statement reads or returns are left out.  Amounts are kopecks and times are
milliseconds, both as natural numbers: every amount column has a check that keeps
it non-negative.
-/

/-- `payment_allocations.kind`. -/
inductive AllocationKind where
  | lessonSlot
  | package
  deriving DecidableEq, Repr

/-- The composite primary key of `payment_allocations`; `target_id` is text. -/
structure AllocationKey where
  paymentOrderId : InvoiceId
  kind : AllocationKind
  targetId : UuidText
  deriving DecidableEq, Repr

structure PaymentAllocation where
  key : AllocationKey
  amountKopecks : Nat
  deriving DecidableEq, Repr

/-- A row of `payment_allocation_reversals`.  `bookedFor` is not a column: it
records which refund attempt the row was written for, so that several rows written
for one attempt can be told apart from several refunds. -/
structure AllocationReversal where
  id : RowId
  allocation : AllocationKey
  refundedKopecks : Nat
  refundedByAccountId : RowId
  reason : Option String
  bookedFor : Option RowId
  deriving DecidableEq, Repr

inductive RefundAttemptStatus where
  | pending
  | succeeded
  | gatewaySucceededDbFailed
  | declined
  | error
  deriving DecidableEq, Repr

/-- A row of `payment_refund_attempts`. -/
structure RefundAttempt where
  id : RowId
  allocation : AllocationKey
  refundedKopecks : Nat
  operatorAccountId : RowId
  idempotencyKey : Option String
  status : RefundAttemptStatus
  originalTransactionId : String
  gatewayRefundTransactionId : Option String
  reversalId : Option RowId
  reason : Option String
  gatewayMessage : Option String
  gatewayReasonCode : Option String
  createdAt : Nat
  deriving DecidableEq, Repr

/-- `payment_refund_attempts_terminal_invariants`, the check constraint of the
attempts table. -/
def RefundAttempt.terminalInvariants (attempt : RefundAttempt) : Bool :=
  match attempt.status with
  | .succeeded => attempt.gatewayRefundTransactionId.isSome && attempt.reversalId.isSome
  | .gatewaySucceededDbFailed =>
    attempt.gatewayRefundTransactionId.isSome && attempt.reversalId.isNone
  | _ => true

/-- What the provider's refund endpoint was sent, and whether it took the refund.
This is the provider's side of the story, not a table of ours. -/
structure GatewayRefund where
  attemptId : RowId
  operatorAccountId : RowId
  idempotencyKey : Option String
  allocation : AllocationKey
  amountKopecks : Nat
  accepted : Bool
  deriving DecidableEq, Repr

inductive OrderStatus where
  | pending
  | threeDsRequired
  | paid
  | failed
  | cancelled
  | granted
  | teacherGranted
  | teacherRevoked
  deriving DecidableEq, Repr

inductive OrderProvider where
  | mock
  | cloudpayments
  | adminGrant
  | teacherGrant
  deriving DecidableEq, Repr

/-- A row of `payment_orders`, with the keys of `metadata` that grants read. -/
structure PaymentOrder where
  invoiceId : InvoiceId
  amountKopecks : Nat
  status : OrderStatus
  provider : OrderProvider
  providerTransactionId : Option String
  customerEmail : Option String
  metadataAccountId : Option UuidText
  metadataPackageId : Option RowId
  metadataPackageSlug : Option String
  metadataPackageDurationMinutes : Option Nat
  teacherAccountId : RowId
  grantedByTeacherId : Option RowId
  createdAt : Nat
  paidAt : Option Nat
  deriving DecidableEq, Repr

/-- A row of `package_purchases`.  `teacherId` is null on rows granted before
packages were scoped to a teacher. -/
structure PackagePurchase where
  id : RowId
  accountId : RowId
  packageId : RowId
  teacherId : Option RowId
  paymentOrderId : InvoiceId
  amountKopecks : Nat
  titleSnapshot : String
  durationMinutes : Nat
  countInitial : Nat
  expiresAt : Nat
  voidedAt : Option Nat
  deriving DecidableEq, Repr

inductive Actor where
  | learner
  | admin
  | teacher
  deriving DecidableEq, Repr

/-- A row of `package_consumptions`; the primary key is the slot. -/
structure PackageConsumption where
  slotId : RowId
  packagePurchaseId : RowId
  consumedByActor : Actor
  restoredAt : Option Nat
  restoredByActor : Option Actor
  restoredReason : Option String
  deriving DecidableEq, Repr

/-- The unit is in use: `restored_at is null`. -/
def PackageConsumption.active (consumption : PackageConsumption) : Bool :=
  consumption.restoredAt.isNone

end LevelChannel
