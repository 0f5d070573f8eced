import LevelChannel.Lessons.Timetable
import LevelChannel.Lessons.Moves

namespace LevelChannel

open ReadCommitted Tables

/-!
# Gates that are written more than once

Some conditions on the time of a lesson stand in several places: when a lesson may start, in
two gates of the application and in the table, and until when a learner may give a lesson
back, in two updates and in a function that the page calls.
-/

/-- The gate of the create path, the one of the direct assignment and of both moves, and the
constraints of the table say the same of the start. -/
structure StartGatesAgree (row : LessonSlot) : Prop where
  moves : validateSlotStartMsk row.startAt = none <-> outOfBand row.startAt = false
  table : validateSlotStartMsk row.startAt = none <->
    (row.startInBusinessHours && row.startSecondsZero) = true

section Start

variable (row : LessonSlot)

theorem mskMinute_eq (startAt : Nat) : mskMinute startAt = mskTime startAt / 60000 := by
  simp only [mskMinute, mskTime, mskDay]
  omega

theorem validateSlotStartMsk_eq_none (startAt : Nat) : validateSlotStartMsk startAt = none <->
    6 * 3600000 ≤ mskTime startAt ∧ mskTime startAt < 22 * 3600000 + 60000 ∧
      mskTime startAt / 1000 % 60 = 0 := by
  unfold validateSlotStartMsk
  simp only [Bool.or_eq_true, Bool.and_eq_true, decide_eq_true_eq]
  split
  · next refused =>
    refine iff_of_false (by simp) ?_
    omega
  · next within =>
    split
    · next odd =>
      refine iff_of_false (by simp) ?_
      omega
    · next whole =>
      refine iff_of_true rfl ?_
      omega

theorem outOfBand_eq_false (startAt : Nat) : outOfBand startAt = false <->
    6 * 3600000 ≤ mskTime startAt ∧ mskTime startAt < 22 * 3600000 := by
  simp only [outOfBand, mskMinute_eq, Bool.or_eq_false_iff, decide_eq_false_iff_not]
  omega

theorem startChecks_iff : (row.startInBusinessHours && row.startSecondsZero) = true <->
    6 * 3600000 ≤ mskTime row.startAt ∧ mskTime row.startAt ≤ 22 * 3600000 ∧
      mskTime row.startAt % 60000 = 0 := by
  simp only [LessonSlot.startInBusinessHours, LessonSlot.startSecondsZero, Bool.and_eq_true,
    Bool.or_eq_true, decide_eq_true_eq]
  omega

/-- They differ between six and ten in the evening on what is no whole minute, and on the
second that follows ten. -/
theorem start_gates_agree_iff : StartGatesAgree row <->
    (6 * 3600000 ≤ mskTime row.startAt -> mskTime row.startAt < 22 * 3600000 ->
      mskTime row.startAt % 60000 = 0) ∧
    ¬(22 * 3600000 ≤ mskTime row.startAt ∧ mskTime row.startAt < 22 * 3600000 + 1000) := by
  constructor
  · rintro ⟨moves, table⟩
    rw [validateSlotStartMsk_eq_none, outOfBand_eq_false] at moves
    rw [validateSlotStartMsk_eq_none, startChecks_iff] at table
    constructor
    · intro opened closed
      exact (table.mp (moves.mpr ⟨opened, closed⟩)).2.2
    · rintro ⟨evening, second⟩
      have admitted := moves.mp ⟨by omega, by omega, by omega⟩
      omega
  · rintro ⟨whole, apart⟩
    constructor
    · rw [validateSlotStartMsk_eq_none, outOfBand_eq_false]
      omega
    · rw [validateSlotStartMsk_eq_none, startChecks_iff]
      omega

end Start

private def tenInTheEvening : LessonSlot :=
  openSlot (.seeded 0) (.seeded 1) (19 * 3600000) 60 none 0

/-- A teacher may open a slot at ten, and the table takes it, but none can be moved there. -/
theorem start_gates_differ : ¬ ∀ row : LessonSlot, StartGatesAgree row := by
  intro agree
  have moves := (agree tenInTheEvening).moves
  revert moves
  decide

/-! ## Until when a learner may give a lesson back -/

/-- `getLearnerCancelWindowHours`, from the text of the environment variable. -/
def getLearnerCancelWindowHours (raw : String) : Nat :=
  let digits := raw.toList
  if digits.isEmpty || !digits.all Char.isDigit then 24
  else
    let parsed := digits.foldl (fun number digit => number * 10 + (digit.toNat - '0'.toNat)) 0
    if 720 < parsed then 24 else parsed

def getLearnerCancelThresholdMs (raw : String) : Nat :=
  getLearnerCancelWindowHours raw * 60 * 60 * 1000

/-- `canLearnerCancel`, for a start that is a date. -/
def canLearnerCancel (raw : String) (nowMs : Nat) (slot : LessonSlot) : Bool :=
  slot.status = .booked && decide (nowMs + getLearnerCancelThresholdMs raw ≤ slot.startAt)

/-- The answers that leave the lesson where it is because it may not be given back. -/
def returnRefusals : List String :=
  ["not_found", "not_owner", "already_terminal", "after_completion", "too_late_to_cancel",
    "too_late_to_reschedule"]

def TakesBack (answer : GatewayAnswer) (db : Db) (program : Program) : Prop :=
  ∀ reason ids, (program.alone store answer db []).2 = some (.returned reason ids) ->
    reason ∉ returnRefusals

/-- A cancellation, a move to any time a lesson can be moved to, and the function that the page
calls say the same of a lesson and a learner. -/
structure ReturnGatesAgree (raw : String) (db : Db) (slotId learnerAccountId : RowId) :
    Prop where
  move : ∀ answer session newStartAt reason, db.clock < newStartAt ->
    outOfBand newStartAt = false -> reasonTooLong reason = false ->
      (TakesBack answer db (.rescheduleSlotByLearner session slotId learnerAccountId
          (some newStartAt) (getLearnerCancelWindowHours raw)) <->
        TakesBack answer db (.cancelLearnerSlot slotId learnerAccountId reason
          (getLearnerCancelWindowHours raw * 60)))
  shown : ∀ answer reason row, reasonTooLong reason = false -> db.slot? slotId = some row ->
    row.learnerAccountId = some learnerAccountId ->
      (canLearnerCancel raw db.clock row = true <->
        TakesBack answer db (.cancelLearnerSlot slotId learnerAccountId reason
          (getLearnerCancelWindowHours raw * 60)))

section Return

variable {answer : GatewayAnswer} {db : Db} {slotId learnerAccountId : RowId}

def NoRefusal : Reply -> Prop
  | .returned reason _ => reason ∉ returnRefusals
  | _ => True

theorem takesBack_update_iff {now : Nat} {reason : Option String}
    (where_ : Db -> LessonSlot -> Bool) (missed : Program) (goes : LessonSlot -> Program)
    (refuses : ∃ reason, reason ∈ returnRefusals ∧
      missed.alone store answer db [] = (db, some (.returned reason [])))
    (accepts : ∀ row, (goes row).Answers NoRefusal) : TakesBack answer db
        (Program.updateSlot slotId where_ (cancelledRow now learnerAccountId reason)
          Program.thrown fun updated =>
            match updated with
            | none => .rollback missed
            | some row => goes row) <->
      ∃ row, db.slot? slotId = some row ∧ where_ db row = true := by
  rw [TakesBack, alone_cancel]
  cases found : (db.slot? slotId).filter (where_ db) with
  | none =>
    refine iff_of_false (fun back => ?_) ?_
    · rcases refuses with ⟨refusal, listed, ran⟩
      exact back refusal [] (by simp only [Program.alone, ran]) listed
    · rintro ⟨row, read, chosen⟩
      simp [read, Option.filter, chosen] at found
  | some row =>
    refine iff_of_true (fun reason ids ended => ?_) ⟨row, Option.filter_eq_some_iff.mp found⟩
    exact (accepts _).alone db _ ended

theorem takesBack_cancel_iff {reason : Option String} {envFallbackMinutes : Nat}
    (short : reasonTooLong reason = false) : TakesBack answer db
        (.cancelLearnerSlot slotId learnerAccountId reason envFallbackMinutes) <->
      ∃ row, db.slot? slotId = some row ∧ row.learnerAccountId = some learnerAccountId ∧
        row.status = .booked ∧
          Program.beforeCancelWindow db.clock envFallbackMinutes db row = true := by
  have refuses : ∃ reason, reason ∈ returnRefusals ∧
      (Program.classifyLearnerCancel slotId learnerAccountId).alone store answer db [] =
        (db, some (.returned reason [])) := by
    simp only [Program.classifyLearnerCancel, Program.query, Program.alone]
    split
    · exact ⟨"not_found", by decide, rfl⟩
    split
    · exact ⟨"not_owner", by decide, rfl⟩
    split
    · exact ⟨"after_completion", by decide, rfl⟩
    split
    · exact ⟨"already_terminal", by decide, rfl⟩
    · exact ⟨"too_late_to_cancel", by decide, rfl⟩
  have decided := @takesBack_update_iff answer db slotId learnerAccountId db.clock reason
    (fun own row => row.learnerAccountId = some learnerAccountId && row.status = .booked &&
      Program.beforeCancelWindow db.clock envFallbackMinutes own row) _
    (fun _ => Program.restorePackageConsumption db.clock slotId .learner (some "learner_cancel")
      Program.thrown fun _ => .commit Program.thrown (Program.notOk "ok"))
    refuses (fun _ _ _ => (by decide : "ok" ∉ returnRefusals))
  simp only [Bool.and_eq_true, decide_eq_true_eq, and_assoc] at decided
  rw [← decided]
  simp only [TakesBack, Program.cancelLearnerSlot, short, Bool.false_eq_true, if_false,
    Program.begin, Program.query, Program.alone, List.append_nil, Program.cancelWhere]
  rfl

theorem answers_lockFirst {where_ : PackagePurchase -> Bool}
    {next : Option PackagePurchase -> Program}
    (goes : ∀ chosen, (next chosen).Answers NoRefusal) (ids : List RowId) :
    (Program.lockFirst where_ Program.thrown next ids).Answers NoRefusal := by
  induction ids with
  | nil => exact goes none
  | cons id rest extend =>
    intro _ own
    dsimp only
    split
    · exact goes _
    · exact extend

theorem answers_consumePackageUnit {now : Nat} {accountId slotId : RowId} {durationMinutes : Nat}
    {actor : Actor} {teacherId : RowId} {next : Option RowId -> Program}
    (goes : ∀ taken, (next taken).Answers NoRefusal) :
    (Program.consumePackageUnit now accountId slotId durationMinutes actor teacherId
      Program.thrown next).Answers NoRefusal := by
  intro _ own
  refine answers_lockFirst (fun chosen => ?_) _
  cases chosen with
  | none => exact goes none
  | some purchase =>
    intro _ view
    dsimp only
    split
    · trivial
    · exact goes _

theorem answers_moveSlot (session now : Nat) (oldSlot : LessonSlot) (learnerAccountId : RowId)
    (newStartAt : Nat) (actor : Actor) (reason : String) :
    (Program.moveSlot session now oldSlot learnerAccountId newStartAt actor reason).Answers
      NoRefusal := by
  have finish (id : RowId) : (Program.commit Program.thrown
      (.done (.returned "ok" [oldSlot.id, id]))).Answers NoRefusal :=
    (by decide : "ok" ∉ returnRefusals)
  intro _ _ _ own
  dsimp only
  split
  · exact (by decide : "external_conflict" ∉ returnRefusals)
  intro _ view
  dsimp only
  split
  · exact (by decide : "slot_collision" ∉ returnRefusals)
  split
  · exact finish _
  · exact answers_consumePackageUnit fun _ => finish _

theorem takesBack_move_iff {session newStartAt cancelWindowHours : Nat}
    (ahead : db.clock < newStartAt) (inside : outOfBand newStartAt = false) :
    TakesBack answer db (.rescheduleSlotByLearner session slotId learnerAccountId
        (some newStartAt) cancelWindowHours) <->
      ∃ row, db.slot? slotId = some row ∧ row.learnerAccountId = some learnerAccountId ∧
        row.status = .booked ∧ db.clock + cancelWindowHours * 3600000 ≤ row.startAt := by
  have refuses : ∃ reason, reason ∈ returnRefusals ∧
      (Program.classifyCancelFailure slotId learnerAccountId).alone store answer db [] =
        (db, some (.returned reason [])) := by
    rcases @alone_classifyCancelFailure answer db slotId learnerAccountId with
      ⟨reason, listed, ran⟩
    have all : ∀ reason, reason ∈ cancelRefusals -> reason ∈ returnRefusals := by decide
    exact ⟨reason, all reason listed, ran⟩
  have decided := @takesBack_update_iff answer db slotId learnerAccountId db.clock
    (some "reschedule")
    (fun _ row => row.learnerAccountId = some learnerAccountId && row.status = .booked &&
      db.clock + cancelWindowHours * 3600000 ≤ row.startAt) _
    (fun oldSlot => Program.moveSlot session db.clock oldSlot learnerAccountId newStartAt .learner
      "learner_cancel")
    refuses (fun oldSlot => answers_moveSlot session db.clock oldSlot learnerAccountId newStartAt
      .learner "learner_cancel")
  simp only [Bool.and_eq_true, decide_eq_true_eq, and_assoc] at decided
  rw [← decided]
  simp only [TakesBack, Program.rescheduleSlotByLearner, Program.dateNow, Program.begin,
    Program.query, Program.lockLearner, Program.locking, Program.alone, List.append_nil,
    Nat.not_le.mpr ahead, inside, Bool.false_eq_true, if_false]
  rfl

/-- The lesson is at least as far away as the window of its teacher and the one of the whole
site ask, or closer than either. -/
def ClearOfWindows (raw : String) (db : Db) (row : LessonSlot) : Prop :=
  let teachers := (db.catalog.cancelWindowMinutes row.teacherAccountId).getD
    (getLearnerCancelWindowHours raw * 60) * 60000
  let sites := getLearnerCancelThresholdMs raw
  db.clock + max teachers sites ≤ row.startAt ∨ row.startAt < db.clock + min teachers sites

/-- The three gates agree if and only if the lesson does not lie between the two windows. -/
theorem return_gates_agree_iff (raw : String) (db : Db) (slotId learnerAccountId : RowId) :
    ReturnGatesAgree raw db slotId learnerAccountId <->
      ∀ row, db.slot? slotId = some row -> row.learnerAccountId = some learnerAccountId ->
        row.status = .booked -> ClearOfWindows raw db row := by
  have threshold : getLearnerCancelThresholdMs raw =
      getLearnerCancelWindowHours raw * 3600000 := by
    rw [getLearnerCancelThresholdMs]
    omega
  constructor
  · intro agree row found learner booked
    have shown := agree.shown (.unsent "") none row rfl found learner
    rw [takesBack_cancel_iff rfl, canLearnerCancel, booked] at shown
    simp only [found, Option.some.injEq, exists_eq_left', learner, booked, true_and,
      Program.beforeCancelWindow, decide_true, Bool.true_and, decide_eq_true_eq] at shown
    simp only [ClearOfWindows]
    omega
  · intro clear
    have decided : ∀ row, db.slot? slotId = some row ->
        row.learnerAccountId = some learnerAccountId -> row.status = .booked ->
          (Program.beforeCancelWindow db.clock (getLearnerCancelWindowHours raw * 60) db row =
              true <->
            db.clock + getLearnerCancelWindowHours raw * 3600000 ≤ row.startAt) := by
      intro row found learner booked
      have apart := clear row found learner booked
      simp only [ClearOfWindows, threshold] at apart
      simp only [Program.beforeCancelWindow, decide_eq_true_eq]
      omega
    constructor
    · intro answer session newStartAt reason ahead inside short
      rw [takesBack_move_iff ahead inside, takesBack_cancel_iff short]
      refine exists_congr fun row => and_congr_right fun found => and_congr_right fun learner =>
        and_congr_right fun booked => ?_
      exact (decided row found learner booked).symm
    · intro answer reason row short found learner
      rw [takesBack_cancel_iff short, canLearnerCancel, threshold]
      simp only [found, Option.some.injEq, exists_eq_left', learner, true_and, Bool.and_eq_true,
        decide_eq_true_eq]
      exact and_congr_right fun booked => (decided row found learner booked).symm

end Return

private def withinTwoDays : Db :=
  { Db.empty with
    catalog := { Catalog.empty with cancelWindowMinutes := fun _ => some 2880 }
    slots := [Program.bookedSlot (.seeded 1) (.seeded 2) (.seeded 3) 108000000 60 none 0] }

/-- Its learner may not cancel it, and may move it. -/
theorem return_gates_differ : ¬ ∀ raw db slotId learnerAccountId,
    ReturnGatesAgree raw db slotId learnerAccountId := by
  intro agree
  have moves := (agree "" withinTwoDays (.seeded 1) (.seeded 3)).move (.unsent "") 1 216000000
    none (by decide) (by decide) rfl
  rw [takesBack_move_iff (by decide) (by decide), takesBack_cancel_iff rfl] at moves
  rcases moves.mp ⟨_, rfl, rfl, rfl, by decide⟩ with ⟨row, found, -, -, early⟩
  cases found
  revert early
  decide

end LevelChannel
