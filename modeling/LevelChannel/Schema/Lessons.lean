import LevelChannel.Schema.Identifiers

namespace LevelChannel

/-!
# Lesson tables

Slots, the completions that make a lesson billable, and the settlements that cover
completions.  Columns no modelled statement reads or returns are left out.
-/

inductive SlotStatus where
  | open
  | booked
  | cancelled
  | completed
  | noShowLearner
  | noShowTeacher
  | personalEvent
  deriving DecidableEq, Repr

/-- The text of the column `status`. -/
def SlotStatus.text : SlotStatus -> String
  | .open => "open"
  | .booked => "booked"
  | .cancelled => "cancelled"
  | .completed => "completed"
  | .noShowLearner => "no_show_learner"
  | .noShowTeacher => "no_show_teacher"
  | .personalEvent => "personal_event"

/-- A row of `lesson_slots`.  `isPersonalEvent` stands for `source = 'personal_event'`,
the only source the code tells apart. -/
structure LessonSlot where
  id : RowId
  teacherAccountId : RowId
  startAt : Nat
  durationMinutes : Nat
  status : SlotStatus
  isPersonalEvent : Bool
  learnerAccountId : Option RowId
  tariffId : Option RowId
  snapshotAmountKopecks : Option Nat
  cancelledAt : Option Nat
  cancelledByAccountId : Option RowId
  cancellationReason : Option String
  markedAt : Option Nat
  updatedAt : Nat
  deriving DecidableEq, Repr

def LessonSlot.endAt (slot : LessonSlot) : Nat :=
  slot.startAt + slot.durationMinutes * 60000

/-- A row of `lesson_completions`. -/
structure LessonCompletion where
  id : RowId
  slotId : RowId
  teacherId : RowId
  wasNoShow : Bool
  amountKopecks : Nat
  completedAt : Nat
  immutableAt : Option Nat
  markedByAccountId : Option RowId
  createdAt : Nat
  deriving DecidableEq, Repr

/-- A row of `lesson_settlements`. -/
structure LessonSettlement where
  id : RowId
  learnerAccountId : RowId
  teacherId : RowId
  amountKopecks : Nat
  markedByAccountId : RowId
  createdAt : Nat
  deriving DecidableEq, Repr

/-- A row of `lesson_settlement_completions`: the part of a settlement that covers
one completion. -/
structure SettlementCompletion where
  settlementId : RowId
  completionId : RowId
  amountKopecks : Nat
  deriving DecidableEq, Repr

/-- A row of `teacher_earnings`, as far as the delete guard reads it. -/
structure TeacherEarning where
  id : RowId
  relatedCompletionId : Option RowId
  deriving DecidableEq, Repr

/-- The deletion of a completion, with the times at which its transaction began and
at which it compared the completion's age with the edit window.  This is not a table:
it keeps in view what a deletion removes. -/
structure Erasure where
  completion : LessonCompletion
  begunAt : Nat
  judgedAt : Nat
  deriving DecidableEq, Repr

/-- A settle request that has passed its duplicate check and has neither recorded
its settlement nor ended.  This is not a table either. -/
structure SettlePass where
  session : Nat
  teacherId : RowId
  learnerAccountId : RowId
  amountKopecks : Nat
  deriving DecidableEq, Repr

end LevelChannel
