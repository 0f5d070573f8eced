import LevelChannel.Lessons.Completions

namespace LevelChannel

open Tables

/-!
# The outcome of a lesson

Marking a lesson that is over, and changing the mark afterwards.  The two billable
outcomes go through a completion row, whose triggers move the slot; the third one, a
teacher who did not show up, is a status and nothing else.
-/

/-- The statuses `markSlotLifecycle` can be asked for. -/
inductive SlotLifecycleStatus where
  | completed
  | noShowLearner
  | noShowTeacher
  deriving DecidableEq, Repr

/-- The statuses `changeLessonStatus` can be asked for. -/
inductive LessonTargetStatus where
  | completed
  | noShowLearner
  | noShowTeacher
  | booked
  deriving DecidableEq, Repr

def LessonTargetStatus.toSlot : LessonTargetStatus -> SlotStatus
  | .completed => .completed
  | .noShowLearner => .noShowLearner
  | .noShowTeacher => .noShowTeacher
  | .booked => .booked

/-- The statuses `changeDealStatus` can be asked for. -/
inductive DealTargetStatus where
  | personalEvent
  | completed
  | cancelled
  deriving DecidableEq, Repr

def DealTargetStatus.toSlot : DealTargetStatus -> SlotStatus
  | .personalEvent => .personalEvent
  | .completed => .completed
  | .cancelled => .cancelled

theorem relooked_eq_some {own : Db} {slotId : RowId} {found : Option LessonCompletion}
    {row : LessonCompletion}
    (read : (found.bind fun found =>
      (own.completion? found.id).filter fun row => row.slotId = slotId) = some row) :
    ∃ original, found = some original ∧ original.id = row.id ∧
      own.completion? row.id = some row ∧ row.slotId = slotId := by
  rcases Option.bind_eq_some_iff.mp read with ⟨original, rfl, looked⟩
  rcases Option.filter_eq_some_iff.mp looked with ⟨current, placed⟩
  have key : row.id = original.id := key_of_get current
  exact ⟨original, rfl, key.symm, by rw [key, current], of_decide_eq_true placed⟩

namespace Program

def thrown : Program :=
  .done (.thrown driverError)

/-- `return { ok: false, reason }`, with nothing to undo. -/
def notOk (reason : String) : Program :=
  .done (.returned reason [])

/-- `rollback`, then `return { ok: false, reason }`. -/
def rollbackNotOk (reason : String) : Program :=
  .rollback (notOk reason)

/-- `select pg_advisory_xact_lock(hashtext('pkg_consume:' || $1::text))` -/
def lockLearner (learnerAccountId : UuidText) (next : Program) : Program :=
  locking [(AdvisoryKey.pkgConsume learnerAccountId).lock] thrown fun _ => next

def sniffMarkFailure (slotId : RowId) (next : String -> Program) : Program :=
  query thrown fun committed _ =>
    match committed.slot? slotId with
    | none => next "not_found"
    | some slot => if slot.status ≠ .booked then next "not_booked" else next "not_yet_started"

/-- The reason `markSlotLifecycle` answers a refusal of `markLessonCompleted` with. -/
def eligibilityReason (reason : String) : String :=
  if reason = "slot_not_found" then "not_found"
  else if reason = "not_yet_ended" then "not_yet_started"
  else reason

/-- The billable path of `markSlotLifecycle`. -/
def markBillable (session : Nat) (slotId : RowId) (wasNoShow : Bool) (actorAccountId : RowId)
    (next : String -> Program) : Program :=
  begin thrown fun now =>
    query thrown fun _ own =>
      match own.slot? slotId with
      | none => .rollback (next "not_found")
      | some slotInfo =>
        markLessonCompleted (.minted session 0) now slotId slotInfo.teacherAccountId wasNoShow
          (some actorAccountId) thrown
          (fun reason => .rollback (next (eligibilityReason reason)))
          fun _ _ =>
            updateSlot slotId (fun _ _ => true)
              (fun row => { row with markedAt := some (row.markedAt.getD now), updatedAt := now })
              thrown
              fun updated =>
                .commit thrown (next (if updated.isSome then "ok" else "not_found"))

/-- `markSlotLifecycle`; its result is handed on as `ok` or as a reason. -/
def markSlotLifecycleThen (session : Nat) (slotId : RowId) (status : SlotLifecycleStatus)
    (actorAccountId : RowId) (next : String -> Program) : Program :=
  match status with
  | .noShowTeacher =>
    begin thrown fun now =>
      updateSlot slotId (fun _ row => row.status = .booked && row.startAt ≤ now)
        (fun row => { row with
          status := .noShowTeacher
          markedAt := some (row.markedAt.getD now)
          updatedAt := now })
        thrown
        fun updated =>
          .commit thrown (if updated.isSome then next "ok" else sniffMarkFailure slotId next)
  | .completed => markBillable session slotId false actorAccountId next
  | .noShowLearner => markBillable session slotId true actorAccountId next

def markSlotLifecycle (session : Nat) (slotId : RowId) (status : SlotLifecycleStatus)
    (actorAccountId : RowId) : Program :=
  markSlotLifecycleThen session slotId status actorAccountId notOk

def markSlotByTeacher (session : Nat) (slotId teacherAccountId : RowId)
    (status : SlotLifecycleStatus) : Program :=
  query thrown fun committed _ =>
    match committed.slot? slotId with
    | none => notOk "not_found"
    | some pre =>
      if pre.teacherAccountId ≠ teacherAccountId then notOk "not_owner"
      else
        markSlotLifecycleThen session slotId status teacherAccountId fun outcome =>
          notOk (if outcome = "wrong_teacher" then "not_owner" else outcome)

/-- What `applyLessonChainInTx` is told. -/
structure LessonChain where
  slotId : RowId
  teacherId : RowId
  tariffId : Option RowId
  snapshotAmountKopecks : Option Nat
  completedAt : Nat
  fromStatus : SlotStatus
  toStatus : LessonTargetStatus
  completionRow : Option LessonCompletion
  judgedAt : Nat

/-- `update lesson_slots set .. where id = $1`, the result not looked at. -/
def setSlot (slotId : RowId) (set_ : LessonSlot -> LessonSlot) (next : Program) : Program :=
  updateSlot slotId (fun _ _ => true) set_ thrown fun _ => next

/-- `update lesson_completions set was_no_show = .. where id = $1`. -/
def setWasNoShow (completionId : RowId) (wasNoShow : Bool) (next : Program) : Program :=
  execute [(LockTarget.completion completionId).forNoKeyUpdate] thrown
    (fun own => match own.completion? completionId with
      | none => []
      | some row => [.completion (.replace { row with wasNoShow := wasNoShow })])
    fun _ => next

def chainCompletion (session now : Nat) (chain : LessonChain) : LessonCompletion where
  id := .minted session 0
  slotId := chain.slotId
  teacherId := chain.teacherId
  wasNoShow := chain.toStatus = .noShowLearner
  amountKopecks := chain.snapshotAmountKopecks.getD 0
  completedAt := chain.completedAt
  immutableAt := none
  markedByAccountId := some chain.teacherId
  createdAt := now

/-- `applyLessonChainInTx`, the matrix of transitions. -/
def applyLessonChainInTx (session now : Nat) (chain : LessonChain)
    (refuse : String -> Program) (next : Program) : Program :=
  let keepMarkedAt (row : LessonSlot) : LessonSlot :=
    { row with markedAt := some (row.markedAt.getD now) }
  let missingSnapshot : Prop := chain.snapshotAmountKopecks = none ∧ chain.tariffId ≠ none
  match chain.fromStatus, chain.toStatus with
  | .completed, .noShowLearner =>
    match chain.completionRow with
    | none => refuse "invalid_transition"
    | some row =>
      setWasNoShow row.id true
        (setSlot chain.slotId (fun slot => { slot with status := .noShowLearner }) next)
  | .noShowLearner, .completed =>
    match chain.completionRow with
    | none => refuse "invalid_transition"
    | some row =>
      setWasNoShow row.id false
        (setSlot chain.slotId (fun slot => { slot with status := .completed }) next)
  | .completed, .booked | .noShowLearner, .booked =>
    match chain.completionRow with
    | none => refuse "invalid_transition"
    | some row =>
      deleteCompletion now chain.judgedAt row thrown (fun message => .done (.thrown message)) next
  | .completed, .noShowTeacher | .noShowLearner, .noShowTeacher =>
    match chain.completionRow with
    | none => refuse "invalid_transition"
    | some row =>
      deleteCompletion now chain.judgedAt row thrown (fun message => .done (.thrown message))
        (setSlot chain.slotId (fun slot => keepMarkedAt { slot with status := .noShowTeacher })
          next)
  | .booked, .completed | .booked, .noShowLearner =>
    if missingSnapshot then refuse "missing_snapshot"
    else
      insertCompletion now (chainCompletion session now chain) thrown
        (setSlot chain.slotId keepMarkedAt next)
  | .booked, .noShowTeacher =>
    setSlot chain.slotId (fun slot => keepMarkedAt { slot with status := .noShowTeacher }) next
  | .noShowTeacher, .booked =>
    setSlot chain.slotId (fun slot => { slot with status := .booked, markedAt := none }) next
  | .noShowTeacher, .completed | .noShowTeacher, .noShowLearner =>
    if missingSnapshot then refuse "missing_snapshot"
    else
      -- the forward trigger only moves a booked slot
      setSlot chain.slotId (fun slot => { slot with status := .booked, markedAt := none })
        (insertCompletion now (chainCompletion session now chain) thrown
          (setSlot chain.slotId keepMarkedAt next))
  | _, _ => refuse "invalid_transition"

def willDeleteCompletion (fromStatus : SlotStatus) (toStatus : LessonTargetStatus) : Bool :=
  (fromStatus = .completed || fromStatus = .noShowLearner) &&
    (toStatus = .booked || toStatus = .noShowTeacher)

/-- `changeLessonStatus`, from the row lock of the slot on. -/
def changeLockedLesson (session now : Nat) (slotId teacherAccountId : RowId)
    (toStatus : LessonTargetStatus) (expectedUpdatedAt : Nat) : Program :=
  locking [(LockTarget.slot slotId).forUpdate] thrown fun own =>
    match own.slot? slotId with
    | none => .rollback thrown
    | some row =>
      if row.updatedAt ≠ expectedUpdatedAt then rollbackNotOk "stale"
      else
        dateNow thrown fun nowMs =>
          if nowMs < row.endAt then rollbackNotOk "not_yet_ended"
          else if row.status = toStatus.toSlot then rollbackNotOk "invalid_transition"
          else
            query thrown fun _ own =>
              let found := own.completionOf? slotId
              let completionLocks := match found with
                | none => []
                | some found => [(LockTarget.completion found.id).forUpdate]
              locking completionLocks thrown fun own =>
                dateNow thrown fun judgedAt =>
                  -- the row of the snapshot, looked at again under its lock
                  let completionRow := found.bind fun found =>
                    (own.completion? found.id).filter fun row => row.slotId = slotId
                  let finish : Program :=
                    applyLessonChainInTx session now
                      { slotId := slotId
                        teacherId := teacherAccountId
                        tariffId := row.tariffId
                        snapshotAmountKopecks := row.snapshotAmountKopecks
                        completedAt := row.endAt
                        fromStatus := row.status
                        toStatus := toStatus
                        completionRow := completionRow
                        judgedAt := judgedAt }
                      rollbackNotOk
                      (setSlot slotId (fun slot => { slot with updatedAt := now })
                        (.commit thrown (notOk "ok")))
                  match completionRow.filter fun _ =>
                      willDeleteCompletion row.status toStatus with
                  | none => finish
                  | some completion =>
                    if completion.immutableAt ≠ none ∨
                        completion.createdAt + fortyEightHoursMs ≤ judgedAt then
                      rollbackNotOk "immutable"
                    else
                      query thrown fun _ own =>
                        if own.covered completion.id then rollbackNotOk "settled"
                        else
                          query thrown fun _ own =>
                            if own.accrued completion.id then rollbackNotOk "accrued"
                            else finish

def changeLessonStatus (session : Nat) (slotId teacherAccountId : RowId)
    (toStatus : LessonTargetStatus) (expectedUpdatedAt : Nat) : Program :=
  begin thrown fun now =>
    query thrown fun _ own =>
      match own.slot? slotId with
      | none => rollbackNotOk "not_found"
      | some preRow =>
        if preRow.teacherAccountId ≠ teacherAccountId then rollbackNotOk "not_owner"
        else if preRow.isPersonalEvent then rollbackNotOk "wrong_kind"
        else if preRow.status = .cancelled then rollbackNotOk "cannot_edit_cancelled"
        else
          match preRow.learnerAccountId with
          | none => rollbackNotOk "invalid_transition"
          | some learnerAccountId =>
            lockLearner (.canonical learnerAccountId)
              (changeLockedLesson session now slotId teacherAccountId toStatus expectedUpdatedAt)

/-- `applyDealChainInTx`, the row a transition makes; none when there is no such
transition. -/
def applyDealChain (now : Nat) (teacherId : RowId) (fromStatus : SlotStatus)
    (toStatus : DealTargetStatus) : Option (LessonSlot -> LessonSlot) :=
  match fromStatus, toStatus with
  | .completed, .personalEvent =>
    some fun slot => { slot with status := .personalEvent, markedAt := none }
  | .completed, .cancelled =>
    some fun slot => { slot with
      status := .cancelled
      markedAt := none
      cancelledAt := some now
      cancelledByAccountId := some teacherId
      cancellationReason := none }
  | .cancelled, .personalEvent =>
    some fun slot => { slot with
      status := .personalEvent
      cancelledAt := none
      cancelledByAccountId := none
      cancellationReason := none }
  | .cancelled, .completed =>
    some fun slot => { slot with
      status := .completed
      markedAt := some now
      cancelledAt := none
      cancelledByAccountId := none
      cancellationReason := none }
  | .personalEvent, .completed =>
    some fun slot => { slot with status := .completed, markedAt := some now }
  | .personalEvent, .cancelled =>
    some fun slot => { slot with
      status := .cancelled
      cancelledAt := some now
      cancelledByAccountId := some teacherId
      cancellationReason := none }
  | _, _ => none

def changeDealStatus (slotId teacherAccountId : RowId) (toStatus : DealTargetStatus)
    (expectedUpdatedAt : Nat) : Program :=
  begin thrown fun now =>
    locking [(LockTarget.slot slotId).forUpdate] thrown fun own =>
      match own.slot? slotId with
      | none => rollbackNotOk "not_found"
      | some row =>
        if row.teacherAccountId ≠ teacherAccountId then rollbackNotOk "not_owner"
        else if row.isPersonalEvent = false then rollbackNotOk "wrong_kind"
        else if row.updatedAt ≠ expectedUpdatedAt then rollbackNotOk "stale"
        else if row.status = toStatus.toSlot then rollbackNotOk "invalid_transition"
        else
          match applyDealChain now teacherAccountId row.status toStatus with
          | none => rollbackNotOk "invalid_transition"
          | some set_ =>
            setSlot slotId set_
              (setSlot slotId (fun slot => { slot with updatedAt := now })
                (.commit thrown (notOk "ok")))

/-- `transitionPersonalEvent` for `completePersonalEvent` and, with a reason, for
`cancelPersonalEventByTeacher`. -/
def transitionPersonalEvent (slotId teacherAccountId : RowId)
    (cancellationReason : Option (Option String)) : Program :=
  begin thrown fun now =>
    locking [(LockTarget.slot slotId).forUpdate] thrown fun own =>
      match own.slot? slotId with
      | none => rollbackNotOk "not_found"
      | some row =>
        if row.teacherAccountId ≠ teacherAccountId then rollbackNotOk "not_owner"
        else if row.isPersonalEvent = false ∨ row.status ≠ .personalEvent then
          rollbackNotOk "wrong_status"
        else
          setSlot slotId
            (fun slot => match cancellationReason with
              | none => { slot with
                  status := .completed
                  markedAt := some now
                  updatedAt := now }
              | some reason => { slot with
                  status := .cancelled
                  cancelledAt := some now
                  cancelledByAccountId := some teacherAccountId
                  cancellationReason := reason
                  updatedAt := now })
            (.commit thrown (notOk "ok"))

end Program

end LevelChannel
