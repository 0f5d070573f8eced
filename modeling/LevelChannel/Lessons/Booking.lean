import LevelChannel.Lessons.Cancel
import LevelChannel.Packages.Grants

namespace LevelChannel

open Tables

/-!
# Booking a slot

A learner books an open slot, a teacher creates a booked one, and either of them moves
a booked one by cancelling it and booking another.  All four take a package unit for
the lesson if there is one, under an advisory lock on the learner.
-/

def mskMinute (startAt : Nat) : Nat :=
  (startAt + 3 * 60 * 60 * 1000) / 60000 % 1440

/-- `mskHour < MSK_BUSINESS_HOUR_MIN || mskHour >= MSK_BUSINESS_HOUR_MAX` -/
def outOfBand (startAt : Nat) : Bool :=
  mskMinute startAt < 6 * 60 || 22 * 60 ≤ mskMinute startAt

/-- `NOTES_MAX` -/
def notesMax : Nat := 500

namespace Program

/-- The arguments of `bookSlot`.  Both callers pass the learner's id as the database
prints it. -/
structure BookSlot where
  billingActive : Bool
  slotId : RowId
  learnerAccountId : RowId
  actor : Actor
  expectedTeacherId : Option RowId
  deriving DecidableEq

def bookable (now : Nat) (input : BookSlot) (own : Db) (row : LessonSlot) : Bool :=
  row.status = .open && now < row.startAt && row.teacherAccountId ≠ input.learnerAccountId &&
    input.expectedTeacherId.all (fun expected => row.teacherAccountId = expected) &&
    !own.catalog.busy row.teacherAccountId row.startAt row.durationMinutes

def reserveSlot (now : Nat) (input : BookSlot) (next : Option LessonSlot -> Program) : Program :=
  updateSlot input.slotId (bookable now input)
    (fun row => { row with
      status := .booked
      learnerAccountId := some input.learnerAccountId
      updatedAt := now })
    thrown next

def classifyBookSlotFailure (input : BookSlot) : Program :=
  query thrown fun committed _ =>
    match committed.slot? input.slotId with
    | none => notOk "not_found"
    | some row =>
      if input.expectedTeacherId.any fun expected => row.teacherAccountId ≠ expected then
        notOk "not_found"
      else if row.teacherAccountId = input.learnerAccountId then notOk "self_booking_blocked"
      else
        dateNow thrown fun nowMs =>
          if row.startAt ≤ nowMs then notOk "in_past"
          else
            query thrown fun committed _ =>
              if row.status = .open ∧
                  committed.catalog.busy row.teacherAccountId row.startAt row.durationMinutes then
                notOk "external_conflict"
              else notOk "not_open"

def privateNoAccess (own : Db) (slot : LessonSlot) (learnerAccountId : RowId) : Bool :=
  slot.tariffId.any fun tariffId =>
    (own.catalog.tariff tariffId).any PricingTariff.isPrivate &&
      !own.catalog.tariffAccess tariffId learnerAccountId

/-- `bookSlot`, from the reserved slot on. -/
def billReservedSlot (now : Nat) (input : BookSlot) (slot : LessonSlot) : Program :=
  query thrown fun _ own =>
    if privateNoAccess own slot input.learnerAccountId then rollbackNotOk "not_found"
    else
      query thrown fun _ own =>
        if own.catalog.paymentMethod slot.teacherAccountId input.learnerAccountId = .none then
          rollbackNotOk "payment_method_not_set"
        else
          consumePackageUnit now input.learnerAccountId slot.id slot.durationMinutes input.actor
            slot.teacherAccountId thrown fun consumed =>
              match consumed with
              | some purchaseId =>
                .commit thrown (.done (.returned "prepaid" [slot.id, purchaseId]))
              | none =>
                query thrown fun committed _ =>
                  if committed.accountHasPendingPackageGrantForDuration
                      (.canonical input.learnerAccountId) slot.durationMinutes
                      slot.teacherAccountId then
                    rollbackNotOk "pending_package_grant"
                  else
                    match slot.tariffId with
                    | none => rollbackNotOk "tariff_required"
                    | some tariffId =>
                      .commit thrown (.done (.returned "postpaid" [slot.id, tariffId]))

def bookSlot (input : BookSlot) : Program :=
  begin thrown fun now =>
    if input.billingActive = false then
      reserveSlot now input fun reserved =>
        match reserved with
        | some slot => .commit thrown (.done (.returned "legacy" [slot.id]))
        | none => .rollback (classifyBookSlotFailure input)
    else
      lockLearner (.canonical input.learnerAccountId)
        (reserveSlot now input fun reserved =>
          match reserved with
          | none => .rollback (classifyBookSlotFailure input)
          | some slot => billReservedSlot now input slot)

/-! ## Creating a booked slot -/

/-- `insert into lesson_slots .. 'booked'`, under the unique index on teacher and
start of the slots that are not cancelled.  Two inserts wait for each other; that an insert
also waits for a cancel that is not committed is left out. -/
def insertBookedSlot (row : LessonSlot) (next : LessonSlot -> Program) : Program :=
  checkedOr
    [(LockTarget.slot row.id).forUpdate,
      (LockTarget.slotStart row.teacherAccountId row.startAt).forUpdate]
    thrown (fun _ => notOk "slot_collision")
    (fun own =>
      if (own.slot? row.id).isSome || own.slots.any (fun other => other.status ≠ .cancelled &&
          other.teacherAccountId = row.teacherAccountId && other.startAt = row.startAt) then
        some "23505"
      else none)
    (fun own => [.slot (.insert (row.snapshotOnBook own.catalog))])
    fun own => next (row.snapshotOnBook own.catalog)

def bookedSlot (id teacherAccountId learnerAccountId : RowId) (startAt durationMinutes : Nat)
    (tariffId : Option RowId) (now : Nat) : LessonSlot where
  id := id
  teacherAccountId := teacherAccountId
  startAt := startAt
  durationMinutes := durationMinutes
  status := .booked
  isPersonalEvent := false
  learnerAccountId := some learnerAccountId
  tariffId := tariffId
  snapshotAmountKopecks := none
  cancelledAt := none
  cancelledByAccountId := none
  cancellationReason := none
  markedAt := none
  updatedAt := now

inductive BillingChoice where
  | auto
  | package
  | postpaid
  deriving DecidableEq, Repr

/-- The argument of `assignSlotDirect`.  The learner's id is the text of the body;
`startAt` is what the date parser makes of the field. -/
structure AssignSlotDirect where
  teacherAccountId : RowId
  learnerAccountId : UuidText
  startAt : Option Nat
  durationMinutes : JsonNumber
  tariffId : RowId
  notes : Option String
  billingChoice : BillingChoice
  packagePurchaseId : Option RowId
  deriving DecidableEq

/-- The postpaid end of `assignSlotDirect`. -/
def assignPostpaid (input : AssignSlotDirect) (slot : LessonSlot) : Program :=
  let finish : Program :=
    query thrown fun _ own =>
      if own.catalog.paymentMethod input.teacherAccountId input.learnerAccountId.id = .none then
        rollbackNotOk "payment_method_not_set"
      else .commit thrown (.done (.returned "postpaid" [slot.id, input.tariffId]))
  if input.billingChoice = .auto then
    query thrown fun committed _ =>
      if committed.accountHasPendingPackageGrantForDuration input.learnerAccountId
          slot.durationMinutes input.teacherAccountId then
        rollbackNotOk "pending_package_grant"
      else finish
  else finish

/-- The package the teacher has chosen: its lock, its checks, its unit.  The unit count
comes from the snapshot of the locking statement. -/
def assignPinned (now : Nat) (input : AssignSlotDirect) (slot : LessonSlot)
    (packagePurchaseId : RowId) : Program :=
  let where_ (row : PackagePurchase) : Bool :=
    row.accountId = input.learnerAccountId.id && now < row.expiresAt && row.voidedAt.isNone
  query thrown fun _ snapshot =>
    lockFirst where_ thrown
      (fun pinned =>
        match pinned.filter fun row => snapshot.hasRemaining row &&
            row.teacherId = some input.teacherAccountId &&
            row.durationMinutes = slot.durationMinutes with
        | none => rollbackNotOk "no_eligible_package"
        | some row =>
          insertConsumption (newConsumption slot.id row.id .teacher) thrown fun created =>
            if created then .commit thrown (.done (.returned "prepaid" [slot.id, row.id]))
            else rollbackNotOk "no_eligible_package")
      (((snapshot.purchase? packagePurchaseId).filter where_).toList.map PackagePurchase.id)

/-- `assignSlotDirect`, from the inserted slot on. -/
def billAssignedSlot (now : Nat) (input : AssignSlotDirect) (slot : LessonSlot) : Program :=
  if input.billingChoice = .postpaid then assignPostpaid input slot
  else
    match input.packagePurchaseId with
    | some packagePurchaseId => assignPinned now input slot packagePurchaseId
    | none =>
      consumePackageUnit now input.learnerAccountId.id slot.id slot.durationMinutes .teacher
        input.teacherAccountId thrown fun consumed =>
          match consumed with
          | some purchaseId =>
            .commit thrown (.done (.returned "prepaid" [slot.id, purchaseId]))
          | none =>
            if input.billingChoice = .package then rollbackNotOk "no_eligible_package"
            else assignPostpaid input slot

/-- The transaction of `assignSlotDirect`. -/
def assignInTx (session now : Nat) (input : AssignSlotDirect) (startAt durationMinutes : Nat) :
    Program :=
  lockLearner input.learnerAccountId
    (query thrown fun _ own =>
      if own.catalog.linked input.teacherAccountId input.learnerAccountId.id = false then
        rollbackNotOk "learner_not_assigned"
      else
        query thrown fun _ own =>
          match (own.catalog.tariff input.tariffId).filter fun tariff =>
              !tariff.isDeleted && tariff.isActive with
          | none => rollbackNotOk "tariff_not_active"
          | some tariff =>
            if tariff.teacherId ≠ some input.teacherAccountId then
              rollbackNotOk "tariff_not_owned"
            else if tariff.durationMinutes ≠ durationMinutes then
              rollbackNotOk "tariff_duration_mismatch"
            else
              query thrown fun _ own =>
                if own.catalog.busy input.teacherAccountId startAt durationMinutes then
                  rollbackNotOk "external_conflict"
                else
                  insertBookedSlot
                    (bookedSlot (.minted session 0) input.teacherAccountId
                      input.learnerAccountId.id startAt durationMinutes (some input.tariffId) now)
                    (billAssignedSlot now input))

def assignSlotDirect (session : Nat) (input : AssignSlotDirect) : Program :=
  if UuidText.canonical input.teacherAccountId = input.learnerAccountId then
    notOk "self_booking_blocked"
  else
    match (positiveInteger (some input.durationMinutes)).filter fun minutes => 30 ≤ minutes with
    | none => notOk "tariff_duration_mismatch"
    | some durationMinutes =>
      if input.notes.any fun notes => notesMax < jsLength notes then
        notOk "tariff_duration_mismatch"
      else
        match input.startAt with
        | none => notOk "in_past"
        | some startAt =>
          dateNow thrown fun nowMs =>
            if startAt ≤ nowMs then notOk "in_past"
            else if outOfBand startAt then notOk "start_out_of_band"
            else begin thrown fun now => assignInTx session now input startAt durationMinutes

/-- The second half of a move, from the cancelled slot on: give its unit back, book
the new time, and take a unit again. -/
def moveSlot (session now : Nat) (oldSlot : LessonSlot) (learnerAccountId : RowId)
    (newStartAt : Nat) (actor : Actor) (restoreReason : String) : Program :=
  restorePackageConsumption now oldSlot.id actor (some restoreReason) thrown fun _ =>
    query thrown fun _ own =>
      if own.catalog.busy oldSlot.teacherAccountId newStartAt oldSlot.durationMinutes then
        rollbackNotOk "external_conflict"
      else
        insertBookedSlot
          (bookedSlot (.minted session 0) oldSlot.teacherAccountId learnerAccountId newStartAt
            oldSlot.durationMinutes oldSlot.tariffId now)
          fun newSlot =>
            let finish : Program :=
              .commit thrown (.done (.returned "ok" [oldSlot.id, newSlot.id]))
            if oldSlot.tariffId.isNone then finish
            else
              consumePackageUnit now learnerAccountId newSlot.id oldSlot.durationMinutes actor
                oldSlot.teacherAccountId thrown fun _ => finish

def classifyCancelFailure (slotId learnerAccountId : RowId) : Program :=
  query thrown fun committed _ =>
    match committed.slot? slotId with
    | none => notOk "not_found"
    | some row =>
      if row.learnerAccountId ≠ some learnerAccountId then notOk "not_owner"
      else if row.status ≠ .booked then notOk "already_terminal"
      else notOk "too_late_to_reschedule"

def rescheduleSlotByLearner (session : Nat) (slotId learnerAccountId : RowId)
    (newStartAt : Option Nat) (cancelWindowHours : Nat) : Program :=
  match newStartAt with
  | none => notOk "in_past"
  | some newStartAt =>
    dateNow thrown fun nowMs =>
      if newStartAt ≤ nowMs then notOk "in_past"
      else if outOfBand newStartAt then notOk "start_out_of_band"
      else
        begin thrown fun now =>
          lockLearner (.canonical learnerAccountId)
            (updateSlot slotId
              (fun _ row => row.learnerAccountId = some learnerAccountId &&
                row.status = .booked && now + cancelWindowHours * 3600000 ≤ row.startAt)
              (fun row => { row with
                status := .cancelled
                cancelledAt := some now
                cancelledByAccountId := some learnerAccountId
                cancellationReason := some "reschedule"
                updatedAt := now })
              thrown
              fun cancelled =>
                match cancelled with
                | none => .rollback (classifyCancelFailure slotId learnerAccountId)
                | some oldSlot =>
                  moveSlot session now oldSlot learnerAccountId newStartAt .learner
                    "learner_cancel")

def classifyTeacherCancelFailure (slotId teacherAccountId : RowId) : Program :=
  query thrown fun committed _ =>
    match committed.slot? slotId with
    | none => notOk "not_found"
    | some row =>
      if row.teacherAccountId ≠ teacherAccountId then notOk "not_owner"
      else notOk "already_terminal"

/-- `rescheduleSlotByTeacher`.  The learner, and with it the advisory lock, is only
known from the cancelled slot. -/
def rescheduleSlotByTeacher (session : Nat) (slotId teacherAccountId : RowId)
    (newStartAt : Option Nat) (reason : Option String) : Program :=
  let trimmedReason := jsTrim (reason.getD "")
  if jsLength trimmedReason < 5 then notOk "reason_required"
  else
    match newStartAt with
    | none => notOk "in_past"
    | some newStartAt =>
      dateNow thrown fun nowMs =>
        if newStartAt ≤ nowMs then notOk "in_past"
        else if outOfBand newStartAt then notOk "start_out_of_band"
        else
          begin thrown fun now =>
            updateSlot slotId
              (fun _ row => row.teacherAccountId = teacherAccountId && row.status = .booked)
              (fun row => { row with
                status := .cancelled
                cancelledAt := some now
                cancelledByAccountId := some teacherAccountId
                cancellationReason := some trimmedReason
                updatedAt := now })
              thrown
              fun cancelled =>
                match cancelled with
                | none => .rollback (classifyTeacherCancelFailure slotId teacherAccountId)
                | some oldSlot =>
                  match oldSlot.learnerAccountId with
                  | none => .rollback thrown
                  | some learnerId =>
                    lockLearner (.canonical learnerId)
                      (moveSlot session now oldSlot learnerId newStartAt .teacher
                        "teacher_reschedule")

end Program

end LevelChannel
