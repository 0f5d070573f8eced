import LevelChannel.Schema.Identifiers

namespace LevelChannel

/-!
# Payment claims

The journal of direct transfers between a learner and a teacher.  A claim names
what was paid for through its items, each of which is a slot or a package purchase.
-/

inductive ClaimStatus where
  | claimed
  | confirmed
  | declined
  | cancelled
  deriving DecidableEq, Repr

inductive ClaimInitiator where
  | learner
  | teacher
  deriving DecidableEq, Repr

inductive PaymentChannel where
  | sbp
  | other
  deriving DecidableEq, Repr

/-- A row of `payment_claims`. -/
structure PaymentClaim where
  id : RowId
  learnerAccountId : RowId
  teacherAccountId : RowId
  amountKopecks : Nat
  paymentMethodId : Option RowId
  paymentChannel : PaymentChannel
  initiatedBy : ClaimInitiator
  status : ClaimStatus
  amountMismatchKopecks : Int
  noteLearner : Option String
  noteTeacher : Option String
  paidAt : Option Nat
  resolvedAt : Option Nat
  deriving DecidableEq, Repr

/-- The claim counts as a payment: `status in ('claimed','confirmed')`. -/
def ClaimStatus.active : ClaimStatus -> Bool
  | .claimed => true
  | .confirmed => true
  | .declined => false
  | .cancelled => false

/-- A row of `payment_claim_items`; exactly one of the two targets is set. -/
structure PaymentClaimItem where
  claimId : RowId
  slotId : Option RowId
  packagePurchaseId : Option RowId
  expectedAmountKopecks : Nat
  deriving DecidableEq, Repr

end LevelChannel
