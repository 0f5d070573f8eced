import LevelChannel.Schema.Text
import LevelChannel.Lessons.Lifecycle

namespace LevelChannel

open Tables

/-!
# The journal of direct payments

The functions of `lib/payments/sbp-claims.ts` that create and resolve claims.  A
learner claims to have paid and the teacher confirms or declines; or the teacher marks
lessons as paid at once.  Creating a claim locks every slot it names under the text the
body has for it, and then asks whether the slot is already paid.
-/

/-- `MAX_AMOUNT_KOPECKS` -/
def maxAmountKopecks : Nat := 100000000

/-- `PAYMENT_RETRO_WINDOW_MS` -/
def paymentRetroWindowMs : Nat := 30 * 24 * 60 * 60 * 1000

/-- `MS_PER_DAY` -/
def msPerDay : Nat := 86400000

/-- An item of a claim, as sent.  The amount the body expects is not used. -/
structure ClaimItemInput where
  slotId : Option UuidText
  packagePurchaseId : Option RowId
  deriving DecidableEq

/-- The argument of `createLearnerClaim` and `createTeacherMarkPaid`.  The id of the
one who asks comes from the session, the other one is the text of the body; `paidAt` is
absent, not a date, or a time. -/
structure CreateClaimInput where
  learnerAccountId : UuidText
  teacherAccountId : UuidText
  amountKopecks : JsonNumber
  paymentChannel : PaymentChannel
  paymentMethodId : Option RowId
  items : List ClaimItemInput
  paidAt : Option (Option Nat)
  note : Option String
  deriving DecidableEq

namespace Db

def claim? (db : Db) (id : RowId) : Option PaymentClaim :=
  get PaymentClaim.id db.claims id

def claimedBySbp (db : Db) (slotId : RowId) : Bool :=
  db.claimItems.any fun item => item.slotId = some slotId &&
    (db.claim? item.claimId).any fun claim => claim.status.active

def consumedByPackage (db : Db) (slotId : RowId) : Bool :=
  (db.consumption? slotId).any PackageConsumption.active

def allocatedByOrder (db : Db) (slotId : RowId) : Bool :=
  db.allocations.any fun allocation => allocation.key.kind = .lessonSlot &&
    allocation.key.targetId = .canonical slotId &&
    (get PaymentOrder.invoiceId db.orders allocation.key.paymentOrderId).any fun order =>
      order.status = .paid

def slotAlreadyPaid (db : Db) (slotId : RowId) : Bool :=
  db.claimedBySbp slotId || db.consumedByPackage slotId || db.allocatedByOrder slotId

end Db

/-- `isSlotPastRetroWindow` -/
def slotPastRetroWindow (nowMs : Nat) (slot : LessonSlot) : Bool :=
  slot.startAt + paymentRetroWindowMs < nowMs

namespace Program

/-! ## Creating a claim -/

/-- `pg_advisory_xact_lock(hashtext('pay-claim:' || $1::text))` for every slot. -/
def lockClaimedSlots (next : Program) : List ClaimItemInput -> Program
  | [] => next
  | item :: rest =>
    match item.slotId with
    | none => lockClaimedSlots next rest
    | some slotId =>
      locking [(AdvisoryKey.payClaim slotId).lock] thrown fun _ => lockClaimedSlots next rest

/-- One item of a claim: who it belongs to, whether it is already paid, and what the
server expects for it. -/
def checkClaimItem (claimId : RowId) (input : CreateClaimInput) (item : ClaimItemInput)
    (next : PaymentClaimItem -> Program) : Program :=
  match item.slotId, item.packagePurchaseId with
  | some slotId, none =>
    query thrown fun _ own =>
      match own.slot? slotId.id with
      | none => rollbackNotOk "slot_not_found"
      | some slot =>
        if UuidText.canonical slot.teacherAccountId ≠ input.teacherAccountId ∨
            slot.learnerAccountId.map UuidText.canonical ≠ some input.learnerAccountId then
          rollbackNotOk "slot_not_belongs_to_pair"
        else
          dateNow thrown fun nowMs =>
            if slotPastRetroWindow nowMs slot then rollbackNotOk "slot_too_old"
            else
              query thrown fun _ own =>
                if own.slotAlreadyPaid slotId.id then rollbackNotOk "slot_already_paid"
                else
                  next
                    { claimId := claimId
                      slotId := some slotId.id
                      packagePurchaseId := none
                      expectedAmountKopecks := slot.snapshotAmountKopecks.getD 0 }
  | none, some packagePurchaseId =>
    query thrown fun _ own =>
      match (own.purchase? packagePurchaseId).filter fun purchase =>
          UuidText.canonical purchase.accountId = input.learnerAccountId with
      | none => rollbackNotOk "package_not_found"
      | some purchase =>
        if purchase.teacherId.any fun teacherId =>
            UuidText.canonical teacherId ≠ input.teacherAccountId then
          rollbackNotOk "package_not_belongs_to_pair"
        else
          next
            { claimId := claimId
              slotId := none
              packagePurchaseId := some packagePurchaseId
              expectedAmountKopecks := purchase.amountKopecks }
  | _, _ => rollbackNotOk "item_xor_violation"

def checkClaimItems (claimId : RowId) (input : CreateClaimInput) :
    List ClaimItemInput -> (List PaymentClaimItem -> Program) -> Program
  | [], next => next []
  | item :: rest, next =>
    checkClaimItem claimId input item fun record =>
      checkClaimItems claimId input rest fun records => next (record :: records)

/-- `insert into payment_claim_items`, one row at a time, under the bound on the
expected amount and the unique index on claim, slot and package. -/
def insertClaimItems (next : Program) : List PaymentClaimItem -> Program
  | [] => next
  | record :: rest =>
    checked [(LockTarget.claim record.claimId).forKeyShare] thrown
      (fun own => maxAmountKopecks ≤ record.expectedAmountKopecks ||
        own.claimItems.any fun other => other.claimId = record.claimId &&
          other.slotId = record.slotId && other.packagePurchaseId = record.packagePurchaseId)
      (fun _ => [.claimItem record])
      fun _ => insertClaimItems next rest

def expectedSum (records : List PaymentClaimItem) : Nat :=
  (records.map PaymentClaimItem.expectedAmountKopecks).sum

/-- The claim that is inserted. -/
def newClaim (id : RowId) (now : Nat) (initiatedBy : ClaimInitiator) (input : CreateClaimInput)
    (amountKopecks : Nat) (records : List PaymentClaimItem) : PaymentClaim where
  id := id
  learnerAccountId := input.learnerAccountId.id
  teacherAccountId := input.teacherAccountId.id
  amountKopecks := amountKopecks
  paymentMethodId := input.paymentMethodId
  paymentChannel := input.paymentChannel
  initiatedBy := initiatedBy
  status := match initiatedBy with
    | .learner => .claimed
    | .teacher => .confirmed
  amountMismatchKopecks := (amountKopecks : Int) - (expectedSum records : Int)
  noteLearner := match initiatedBy with
    | .learner => input.note
    | .teacher => none
  noteTeacher := match initiatedBy with
    | .learner => none
    | .teacher => input.note
  paidAt := match initiatedBy with
    | .learner => none
    | .teacher => input.paidAt.join
  resolvedAt := match initiatedBy with
    | .learner => none
    | .teacher => some now

/-- The method of a transfer must be the teacher's; a learner's must be in use. -/
def checkPaymentMethod (initiatedBy : ClaimInitiator) (input : CreateClaimInput)
    (next : Program) : Program :=
  match input.paymentChannel, input.paymentMethodId with
  | .sbp, some paymentMethodId =>
    query thrown fun _ own =>
      match (own.catalog.sbpMethod paymentMethodId).filter fun method =>
          UuidText.canonical method.teacherAccountId = input.teacherAccountId with
      | none => rollbackNotOk "method_not_found"
      | some method =>
        if initiatedBy = .learner ∧ method.isArchived then rollbackNotOk "method_archived"
        else next
  | _, _ => next

/-- The transaction of both creation functions. -/
def createClaimInTx (session : Nat) (initiatedBy : ClaimInitiator) (input : CreateClaimInput)
    (amountKopecks : Nat) : Program :=
  let claimId := RowId.minted session 0
  begin thrown fun now =>
    lockClaimedSlots
      (checkPaymentMethod initiatedBy input
        (checkClaimItems claimId input input.items fun records =>
          checked [(LockTarget.claim claimId).forUpdate] thrown
            (fun own => (own.claim? claimId).isSome)
            (fun _ => [.claim (.insert
              (newClaim claimId now initiatedBy input amountKopecks records))])
            fun _ =>
              insertClaimItems (.commit thrown (.done (.returned "ok" [claimId]))) records))
      input.items

/-- The checks before the transaction that both creation functions make; the amount
comes back as a number. -/
def claimShape (input : CreateClaimInput) : Except String Nat :=
  match positiveInteger (some input.amountKopecks) with
  | none => .error "invalid_amount"
  | some amountKopecks =>
    if maxAmountKopecks ≤ amountKopecks then .error "amount_too_large"
    else if input.items = [] then .error "no_items"
    else if 20 < input.items.length then .error "too_many_items"
    else .ok amountKopecks

def createLearnerClaim (session : Nat) (input : CreateClaimInput) : Program :=
  match claimShape input with
  | .error reason => notOk reason
  | .ok amountKopecks =>
    if input.paymentChannel = .sbp ∧ input.paymentMethodId = none then
      notOk "method_required_for_sbp"
    else createClaimInTx session .learner input amountKopecks

def createTeacherMarkPaid (session : Nat) (input : CreateClaimInput) : Program :=
  match claimShape input with
  | .error reason => notOk reason
  | .ok amountKopecks =>
    match input.paidAt with
    | none => createClaimInTx session .teacher input amountKopecks
    | some none => notOk "invalid_paid_at"
    | some (some paidDate) =>
      dateNow thrown fun nowMs =>
        if nowMs + msPerDay < paidDate then notOk "paid_at_in_future"
        else createClaimInTx session .teacher input amountKopecks

/-- The update and the classification that the three resolutions share. -/
def resolveClaim (claimId : RowId) (mayResolve mayRead : PaymentClaim -> Bool)
    (resolve : Nat -> PaymentClaim -> PaymentClaim) (resolved : String) : Program :=
  let reached (own : Db) : Option PaymentClaim :=
    (own.claim? claimId).filter fun claim => claim.status = .claimed && mayResolve claim
  begin thrown fun now =>
    execute [(LockTarget.claim claimId).forNoKeyUpdate] thrown
      (fun own => (reached own).toList.map fun claim => .claim (.replace (resolve now claim)))
      fun own =>
        .commit thrown
          (if (reached own).isSome then notOk resolved
          else
            query thrown fun committed _ =>
              match (committed.claim? claimId).filter mayRead with
              | none => notOk "not_found"
              | some _ => notOk "already_resolved")

def confirmClaim (teacherAccountId claimId : RowId) : Program :=
  resolveClaim claimId (fun claim => claim.teacherAccountId = teacherAccountId)
    (fun claim => claim.teacherAccountId = teacherAccountId)
    (fun now claim => { claim with status := .confirmed, resolvedAt := some now }) "confirmed"

def declineClaim (teacherAccountId claimId : RowId) (note : Option String) : Program :=
  resolveClaim claimId (fun claim => claim.teacherAccountId = teacherAccountId)
    (fun claim => claim.teacherAccountId = teacherAccountId)
    (fun now claim =>
      { claim with status := .declined, resolvedAt := some now, noteTeacher := note })
    "declined"

def cancelClaimByLearner (learnerAccountId claimId : RowId) : Program :=
  resolveClaim claimId
    (fun claim => claim.learnerAccountId = learnerAccountId && claim.initiatedBy = .learner)
    (fun claim => claim.learnerAccountId = learnerAccountId)
    (fun now claim => { claim with status := .cancelled, resolvedAt := some now }) "cancelled"

end Program

end LevelChannel
