import LevelChannel.Schema.Text
import LevelChannel.Lessons.Lifecycle

namespace LevelChannel

open Tables

/-!
# Cancelling a slot

Three ways to cancel, for the operator, the learner and the teacher.  Each decides in
the condition of one update, gives the package unit back in the same transaction, and
only then finds out why an update reached nothing.
-/

/-- `MAX_REASON_LEN` -/
def maxReasonLen : Nat := 500

/-- `reason && reason.length > MAX_REASON_LEN` -/
def reasonTooLong (reason : Option String) : Bool :=
  reason.any fun text => maxReasonLen < jsLength text

/-- `nullif(btrim($3), '') is not null`; the database trims spaces only. -/
def reasonGiven (reason : Option String) : Bool :=
  reason.any fun text => text.toList.any fun char => char ≠ ' '

/-- `CancelAfterCompletionError` applies. -/
def LessonSlot.afterCompletion (slot : LessonSlot) : Bool :=
  slot.status = .completed || slot.status = .noShowLearner

namespace Program

def cancelWhere (now : Nat) (slotId : RowId) (where_ : Db -> LessonSlot -> Bool)
    (cancelledAt : LessonSlot -> Nat) (cancelledByAccountId : RowId) (reason : Option String)
    (actor : Actor) (restoreReason : String) (cancelled missed : Program) : Program :=
  updateSlot slotId where_
    (fun row => { row with
      status := .cancelled
      cancelledAt := some (cancelledAt row)
      cancelledByAccountId := some cancelledByAccountId
      cancellationReason := reason
      updatedAt := now })
    thrown
    fun updated =>
      match updated with
      | none => .rollback missed
      | some _ =>
        restorePackageConsumption now slotId actor (some restoreReason) thrown fun _ =>
          .commit thrown cancelled

def cancelSlot (slotId cancelledByAccountId : RowId) (reason : Option String) (actor : Actor) :
    Program :=
  if reasonTooLong reason then .done (.thrown "slot/cancellationReason/too_long")
  else
    query thrown fun committed _ =>
      if (committed.slot? slotId).any LessonSlot.afterCompletion then
        .done (.thrown "slot/cancel/after_completion")
      else
        begin thrown fun now =>
          cancelWhere now slotId
            (fun _ row => row.status ≠ .cancelled && row.status ≠ .completed &&
              row.status ≠ .noShowLearner)
            (fun row => row.cancelledAt.getD now) cancelledByAccountId reason actor
            "admin_or_learner_cancel"
            (.done (.returned "slot" [slotId])) (.done (.returned "null" []))

/-- `start_at - now() >= make_interval(mins => coalesce(.., $5))` -/
def beforeCancelWindow (now envFallbackMinutes : Nat) (own : Db) (row : LessonSlot) : Bool :=
  now + (own.catalog.cancelWindowMinutes row.teacherAccountId).getD envFallbackMinutes * 60000 ≤
    row.startAt

/-- Why the update of `cancelLearnerSlot` reached nothing. -/
def classifyLearnerCancel (slotId learnerAccountId : RowId) : Program :=
  query thrown fun committed _ =>
    match committed.slot? slotId with
    | none => notOk "not_found"
    | some row =>
      if row.learnerAccountId ≠ some learnerAccountId then notOk "not_owner"
      else if row.afterCompletion then notOk "after_completion"
      else if row.status ≠ .booked then notOk "already_terminal"
      else notOk "too_late_to_cancel"

def cancelLearnerSlot (slotId learnerAccountId : RowId) (reason : Option String)
    (envFallbackMinutes : Nat) : Program :=
  if reasonTooLong reason then .done (.thrown "slot/cancellationReason/too_long")
  else
    begin thrown fun now =>
      cancelWhere now slotId
        (fun own row => row.learnerAccountId = some learnerAccountId && row.status = .booked &&
          beforeCancelWindow now envFallbackMinutes own row)
        (fun _ => now) learnerAccountId reason .learner "learner_cancel"
        (notOk "ok") (classifyLearnerCancel slotId learnerAccountId)

/-- Why the update of `cancelSlotByTeacher` reached nothing. -/
def classifyTeacherCancel (slotId teacherAccountId : RowId) (reason : Option String) : Program :=
  query thrown fun committed _ =>
    match committed.slot? slotId with
    | none => notOk "not_found"
    | some row =>
      if row.teacherAccountId ≠ teacherAccountId then notOk "not_owner"
      else if row.status = .booked ∧ jsTrim (reason.getD "") = "" then
        notOk "reason_required_for_booked"
      else if row.afterCompletion then notOk "after_completion"
      else notOk "already_terminal"

def cancelSlotByTeacher (slotId teacherAccountId : RowId) (reason : Option String) : Program :=
  if reasonTooLong reason then .done (.thrown "slot/cancellationReason/too_long")
  else
    begin thrown fun now =>
      cancelWhere now slotId
        (fun _ row => row.teacherAccountId = teacherAccountId &&
          (row.status = .open || row.status = .booked) &&
          (row.status = .open || reasonGiven reason))
        (fun row => row.cancelledAt.getD now) teacherAccountId reason .teacher "teacher_cancel"
        (notOk "ok") (classifyTeacherCancel slotId teacherAccountId reason)

end Program

end LevelChannel
