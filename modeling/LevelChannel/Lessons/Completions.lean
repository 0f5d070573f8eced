import LevelChannel.Lessons.Slots

namespace LevelChannel

open Tables

/-!
# Completions

A completion makes a lesson billable.  Two triggers keep the slot in step: inserting
a completion takes a booked slot to its outcome, deleting one takes the slot back.  A
third one refuses to delete a completion that is stamped, settled or accrued.
-/

def fortyEightHoursMs : Nat := 48 * 60 * 60 * 1000

/-- The outcome `lesson_completion_apply` gives a slot. -/
def outcomeStatus (wasNoShow : Bool) : SlotStatus :=
  if wasNoShow then .noShowLearner else .completed

namespace Db

def covered (db : Db) (completionId : RowId) : Bool :=
  db.settlementCompletions.any fun row => row.completionId = completionId

def accrued (db : Db) (completionId : RowId) : Bool :=
  db.earnings.any fun row => row.relatedCompletionId = some completionId

/-- `lesson_completion_apply`, after the insert of a completion. -/
def completionApply (db : Db) (now : Nat) (row : LessonCompletion) :
    Option (LessonSlot × LessonSlot) :=
  db.slotUpdate row.slotId (fun slot => slot.status = .booked)
    fun slot => { slot with status := outcomeStatus row.wasNoShow, updatedAt := now }

/-- `lesson_completion_revert`, after the delete of a completion. -/
def completionRevert (db : Db) (now : Nat) (row : LessonCompletion) :
    Option (LessonSlot × LessonSlot) :=
  db.slotUpdate row.slotId
    (fun slot => slot.status = .completed || slot.status = .noShowLearner)
    fun slot => { slot with status := .booked, updatedAt := now }

/-- The message `lesson_completion_delete_guard` raises, if it does.  Coverage and
earnings refer to the completion as well, and restrict its deletion. -/
def completionDeleteGuard (db : Db) (row : LessonCompletion) : Option String :=
  if row.immutableAt.isSome then some "lesson_completions: immutability passed (48h)"
  else if db.covered row.id then
    some "lesson_completions: settlement exists, un-mark forbidden"
  else if db.accrued row.id then
    some "lesson_completions: earnings accrued, un-mark forbidden"
  else none

end Db

namespace Program

/-- The locks of an insert: the new row and its entry in the unique index, the
referenced slot, and the slot once more for the trigger. -/
def insertCompletionLocks (row : LessonCompletion) : List Lock :=
  [(LockTarget.completion row.id).forUpdate, (LockTarget.completionOfSlot row.slotId).forUpdate,
    (LockTarget.slot row.slotId).forKeyShare, (LockTarget.slot row.slotId).forNoKeyUpdate]

/-- What an insert of a completion violates: the primary key, the reference to the
slot, or the rule of the slot's own trigger. -/
def insertCompletionRejects (now : Nat) (row : LessonCompletion) (own : Db) : Bool :=
  (own.completion? row.id).isSome || (own.slot? row.slotId).isNone ||
    slotUpdateRejects (own.completionApply now row)

/-- `insert into lesson_completions`. -/
def insertCompletion (now : Nat) (row : LessonCompletion) (onError next : Program) : Program :=
  checked (insertCompletionLocks row) onError
    (fun own => insertCompletionRejects now row own || (own.completionOf? row.slotId).isSome)
    (fun own => .completion (.insert row) :: slotUpdateWrites (own.completionApply now row))
    fun _ => next

/-- `insert into lesson_completions .. on conflict (slot_id) do nothing`. -/
def insertCompletionIfAbsent (now : Nat) (row : LessonCompletion) (onError : Program)
    (next : Bool -> Program) : Program :=
  checked (insertCompletionLocks row) onError
    (fun own => (own.completionOf? row.slotId).isNone && insertCompletionRejects now row own)
    (fun own =>
      if (own.completionOf? row.slotId).isSome then []
      else .completion (.insert row) :: slotUpdateWrites (own.completionApply now row))
    fun own => next (own.completionOf? row.slotId).isNone

/-- `delete from lesson_completions where id = $1`.  The deletion is noted together
with the times at which the request began and at which it judged the row's age. -/
def deleteCompletion (begunAt judgedAt : Nat) (row : LessonCompletion) (onError : Program)
    (onRaise : String -> Program) (next : Program) : Program :=
  checkedOr
    [(LockTarget.completion row.id).forUpdate, (LockTarget.completionOfSlot row.slotId).forUpdate,
      (LockTarget.slot row.slotId).forNoKeyUpdate]
    onError onRaise
    (fun own => (own.completion? row.id).bind fun old =>
      (own.completionDeleteGuard old).or
        (if slotUpdateRejects (own.completionRevert begunAt old) then some snapshotMessage
          else none))
    (fun own => match own.completion? row.id with
      | none => []
      | some old =>
        .erasure ⟨old, begunAt, judgedAt⟩ :: .completion (.delete old) ::
          slotUpdateWrites (own.completionRevert begunAt old))
    fun _ => next

/-- `markLessonCompleted`, on its caller's transaction. -/
def markLessonCompleted (completionId : RowId) (now : Nat) (slotId teacherId : RowId)
    (wasNoShow : Bool) (markedByAccountId : Option RowId) (onError : Program)
    (ineligible : String -> Program) (next : RowId -> Bool -> Program) : Program :=
  locking [(LockTarget.slot slotId).forUpdate] onError fun own =>
    match own.slot? slotId with
    | none => ineligible "slot_not_found"
    | some slot =>
      if slot.teacherAccountId ≠ teacherId then ineligible "wrong_teacher"
      else if slot.status = .completed ∨ slot.status = .noShowLearner then
        query onError fun _ own =>
          match own.completionOf? slotId with
          | some existing => next existing.id false
          | none => ineligible "not_booked"
      else if slot.status ≠ .booked then ineligible "not_booked"
      else
        dateNow onError fun nowMs =>
          if nowMs < slot.endAt then ineligible "not_yet_ended"
          else if slot.snapshotAmountKopecks = none ∧ slot.tariffId ≠ none then
            ineligible "missing_snapshot"
          else
            insertCompletionIfAbsent now
              { id := completionId
                slotId := slotId
                teacherId := teacherId
                wasNoShow := wasNoShow
                amountKopecks := slot.snapshotAmountKopecks.getD 0
                completedAt := slot.endAt
                immutableAt := none
                markedByAccountId := markedByAccountId
                createdAt := now }
              onError
              fun created =>
                if created then next completionId true
                else
                  query onError fun _ own =>
                    match own.completionOf? slotId with
                    | none => ineligible "slot_not_found"
                    | some existing => next existing.id false

def uncompleteRaised (message : String) : Program :=
  if message = "lesson_completions: immutability passed (48h)" then
    .done (.refused 409 "immutable" "48 часов прошло — отметку нельзя снять.")
  else if message = "lesson_completions: settlement exists, un-mark forbidden" then
    .done (.refused 409 "settled" "Урок уже учтён в платежах.")
  else if message = "lesson_completions: earnings accrued, un-mark forbidden" then
    .done (.refused 409 "accrued" "По уроку уже начислена выплата.")
  else .done (.refused 500 "internal_error" "")

/-- `POST /api/teacher/lessons/[id]/uncomplete`. -/
def uncomplete (teacherAccountId completionId : RowId) : Program :=
  let onError : Program := .done (.refused 500 "internal_error" "")
  let refuse (status : Nat) (error message : String) : Program :=
    .rollback (.done (.refused status error message))
  begin onError fun now =>
    locking [(LockTarget.completion completionId).forUpdate] onError fun own =>
      match own.completion? completionId with
      | none => refuse 404 "not_found" "Отметка не найдена."
      | some row =>
        if row.teacherId ≠ teacherAccountId then
          refuse 403 "not_owner" "Эта отметка не принадлежит вашему аккаунту."
        else
          dateNow onError fun nowMs =>
            if row.immutableAt ≠ none ∨ row.createdAt + fortyEightHoursMs ≤ nowMs then
              refuse 409 "immutable" "48 часов прошло — отметку нельзя снять."
            else
              query onError fun _ own =>
                if own.covered completionId then
                  refuse 409 "settled" "Урок уже учтён в платежах — отметку нельзя снять."
                else
                  query onError fun _ own =>
                    if own.accrued completionId then
                      refuse 409 "accrued"
                        "По уроку уже начислена выплата — отметку нельзя снять."
                    else
                      deleteCompletion now nowMs row onError uncompleteRaised
                        (.commit onError (.done (.json 200 [completionId])))

/-- `stampLessonCompletionsImmutable`, the daily sweep over completions whose window
has passed.  Rows are found in the snapshot and looked at again under their locks. -/
def stampLessonCompletionsImmutable : Program :=
  let failed : Program := .done (.returned "cleanup failed" [])
  begin failed fun now =>
    query failed fun _ own =>
      let due (row : LessonCompletion) : Bool :=
        row.immutableAt.isNone && row.createdAt + fortyEightHoursMs ≤ now
      let candidates := (own.completions.filter due).map LessonCompletion.id
      execute (candidates.map fun id => (LockTarget.completion id).forNoKeyUpdate) failed
        (fun own => candidates.filterMap fun id =>
          ((own.completion? id).filter due).map fun row =>
            .completion (.replace { row with
              immutableAt := some (row.createdAt + fortyEightHoursMs) }))
        fun _ => .commit failed (.done (.returned "cleaned" candidates))

end Program

end LevelChannel
