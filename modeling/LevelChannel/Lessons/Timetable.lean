import LevelChannel.Lessons.Booking

namespace LevelChannel

open Tables

/-!
# When lessons may take place

A lesson is meant to start in the business hours of its Moscow day and to end before the
day does.  The end is left to a check constraint, and the constraint adds the duration to
a time of day.  Such a sum starts again at midnight, so a lesson that runs into the next
day is compared with the end of the day as if it ended early in the morning.
-/

/-! ## The constraints of the table -/

def mskDay : Nat := 24 * 60 * 60 * 1000

/-- `(start_at at time zone 'Europe/Moscow')::time`, in milliseconds. -/
def mskTime (startAt : Nat) : Nat :=
  (startAt + 3 * 60 * 60 * 1000) % mskDay

/-- `time '23:59:59'` -/
def lastSecond : Nat := ((23 * 60 + 59) * 60 + 59) * 1000

namespace LessonSlot

variable (row : LessonSlot)

/-- `lesson_slots_duration_band` -/
def durationBand : Bool :=
  15 ≤ row.durationMinutes && row.durationMinutes ≤ 180

/-- `lesson_slots_within_msk_day`.  `time + interval` stays within one day. -/
def withinMskDay : Bool :=
  (mskTime row.startAt + row.durationMinutes * 60000) % mskDay ≤ lastSecond

/-- `lesson_slots_start_in_business_hours` -/
def startInBusinessHours : Bool :=
  let hour := mskTime row.startAt / 3600000
  let minute := mskTime row.startAt / 60000 % 60
  6 ≤ hour && (hour < 22 || hour = 22 && minute = 0)

/-- `lesson_slots_start_seconds_zero` -/
def startSecondsZero : Bool :=
  mskTime row.startAt % 60000 = 0

def checks : Bool :=
  row.durationBand && row.withinMskDay && row.startInBusinessHours && row.startSecondsZero

def EndsSameDay : Prop :=
  mskTime row.startAt + row.durationMinutes * 60000 ≤ lastSecond

instance : Decidable row.EndsSameDay :=
  inferInstanceAs (Decidable (_ ≤ _))

end LessonSlot

structure SlotStartError where
  code : String
  message : String
  deriving DecidableEq, Repr

def validateSlotStartMsk (startMs : Nat) : Option SlotStartError :=
  let hour := mskTime startMs / 3600000
  let minute := mskTime startMs / 60000 % 60
  let second := mskTime startMs / 1000 % 60
  if hour < 6 || 22 < hour || (hour = 22 && 0 < minute) then
    some ⟨"slot/start_out_of_band", "Slot start must be 06:00–22:00 MSK."⟩
  else if second ≠ 0 then
    some ⟨"slot/start_not_30min_aligned", "Slot start must have zero seconds."⟩
  else none

/-- `MAX_NOTES_LEN` -/
def maxNotesLen : Nat := 500

/-- The fields `validateSlotInput` looks at.  A start is what the date parser makes of the
text; the outer options are fields that are not there. -/
structure SlotInput where
  startAt : Option (Option Nat)
  durationMinutes : Option JsonNumber
  notes : Option String

/-- `validateSlotInput`, the field and the reason. -/
def validateSlotInput (now : Nat) (input : SlotInput) : Option (String × String) :=
  match input.startAt with
  | some none => some ("startAt", "invalid")
  | startAt =>
    if startAt.any fun start => start.all fun ts => ts ≤ now then some ("startAt", "in_past")
    else
      match input.durationMinutes with
      | some .fractional => some ("durationMinutes", "not_integer")
      | durationMinutes =>
        if durationMinutes.any fun minutes => match minutes with
            | .integer value => value < 15 || 180 < value
            | .fractional => false then
          some ("durationMinutes", "out_of_band")
        else if input.notes.any fun notes => maxNotesLen < jsLength notes then
          some ("notes", "too_long")
        else none

/-! ## The writers -/

/-- `insert into lesson_slots`, with the code of the constraint it may violate. -/
def insertSlot (db : Db) (row : LessonSlot) : Except String Db :=
  if row.checks = false then .error "23514"
  else if (db.slot? row.id).isSome || db.slots.any (fun other => other.status ≠ .cancelled &&
      other.teacherAccountId = row.teacherAccountId && other.startAt = row.startAt) then
    .error "23505"
  else .ok { db with slots := db.slots ++ [row.snapshotOnBook db.catalog] }

def openSlot (id teacherAccountId : RowId) (startAt durationMinutes : Nat)
    (tariffId : Option RowId) (now : Nat) : LessonSlot where
  id := id
  teacherAccountId := teacherAccountId
  startAt := startAt
  durationMinutes := durationMinutes
  status := .open
  isPersonalEvent := false
  learnerAccountId := none
  tariffId := tariffId
  snapshotAmountKopecks := none
  cancelledAt := none
  cancelledByAccountId := none
  cancellationReason := none
  markedAt := none
  updatedAt := now

def tariffGates (db : Db) (tariffId : Option RowId) (teacherAccountId : RowId)
    (durationMinutes : Nat) : Option String :=
  tariffId.bind fun tariffId =>
    match db.catalog.tariff tariffId with
    | none => some "TariffNotActiveError: unknown"
    | some tariff =>
      if tariff.isDeleted then some "TariffNotActiveError: soft_deleted"
      else if tariff.teacherId ≠ some teacherAccountId then some "TariffOwnershipError"
      else if tariff.durationMinutes ≠ durationMinutes then
        some "slot/tariffId/duration_mismatch"
      else none

/-- The argument of `createSlot`. -/
structure CreateSlot where
  teacherAccountId : RowId
  startAt : Option Nat
  durationMinutes : JsonNumber
  notes : Option String
  tariffId : Option RowId

def createSlot (isTeacher : RowId -> Bool) (db : Db) (id : RowId) (input : CreateSlot) :
    Except String Db :=
  match validateSlotInput db.clock ⟨some input.startAt, some input.durationMinutes, input.notes⟩,
    input.startAt, input.durationMinutes with
  | some (field, reason), _, _ => .error ("slot/" ++ field ++ "/" ++ reason)
  | none, some startAt, .integer minutes =>
    match tariffGates db input.tariffId input.teacherAccountId minutes.toNat with
    | some error => .error error
    | none =>
      if isTeacher input.teacherAccountId = false then .error "SlotTeacherRoleError"
      else
        insertSlot db
          (openSlot id input.teacherAccountId startAt minutes.toNat input.tariffId db.clock)
  | none, _, _ => .error "slot/startAt/invalid"

/-- The argument of `bulkCreateSlots`; a start comes with the key its row would get. -/
structure BulkCreate where
  teacherAccountId : RowId
  durationMinutes : JsonNumber
  notes : Option String
  tariffId : Option RowId
  slots : List (RowId × Option Nat)

/-- The inserts of a batch.  A start that is taken is skipped, another violation ends the
whole batch. -/
def bulkInsert (teacherAccountId : RowId) (durationMinutes : Nat) (tariffId : Option RowId) :
    List (RowId × Nat) -> Db -> Except String Db
  | [], db => .ok db
  | (id, startAt) :: slots, db =>
    match insertSlot db
        (openSlot id teacherAccountId startAt durationMinutes tariffId db.clock) with
    | .ok after => bulkInsert teacherAccountId durationMinutes tariffId slots after
    | .error "23505" => bulkInsert teacherAccountId durationMinutes tariffId slots db
    | .error code => .error code

def bulkCreateSlots (isTeacher : RowId -> Bool) (db : Db) (input : BulkCreate) : Except String Db :=
  match validateSlotInput db.clock ⟨none, some input.durationMinutes, input.notes⟩,
    input.durationMinutes with
  | some (field, reason), _ => .error ("slot/" ++ field ++ "/" ++ reason)
  | none, .fractional => .error "slot/durationMinutes/not_integer"
  | none, .integer minutes =>
    if input.slots.isEmpty then .error "slot/slots/empty"
    else if 200 < input.slots.length then .error "slot/slots/too_many"
    else
      match input.slots.findSome? fun slot =>
          validateSlotInput db.clock ⟨some slot.2, none, none⟩ with
      | some (field, reason) => .error ("slot/" ++ field ++ "/" ++ reason)
      | none =>
        match tariffGates db input.tariffId input.teacherAccountId minutes.toNat with
        | some error => .error error
        | none =>
          if isTeacher input.teacherAccountId = false then .error "SlotTeacherRoleError"
          else
            bulkInsert input.teacherAccountId minutes.toNat input.tariffId
              (input.slots.filterMap fun slot => slot.2.map fun startAt => (slot.1, startAt)) db

def LessonSlot.movedTo (row : LessonSlot) (newStartAt now : Nat) : LessonSlot :=
  { row with startAt := newStartAt, updatedAt := now }

/-- `moveOpenSlot` for an operator, and `moveOpenSlotByTeacher` for a teacher, who may only
move a slot of their own. -/
def moveOpenSlot (db : Db) (slotId : RowId) (newStartAt : Nat) (owner : Option RowId) :
    Except String Db :=
  match db.slot? slotId with
  | none => .error "not_found"
  | some row =>
    if owner.any fun teacherAccountId => row.teacherAccountId ≠ teacherAccountId then
      .error "not_owner"
    else if row.status ≠ .open then .error "not_open"
    else if (row.movedTo newStartAt db.clock).checks = false then .error "23514"
    else if db.slots.any (fun other => other.id ≠ slotId && other.status ≠ .cancelled &&
        other.teacherAccountId = row.teacherAccountId && other.startAt = newStartAt) then
      .error "slot_collision"
    else .ok (db.apply (.slot (.replace (row.movedTo newStartAt db.clock))))

def moveRoute (db : Db) (slotId : RowId) (newStartAt : Nat) (owner : Option RowId) :
    Except String Db :=
  (validateSlotStartMsk newStartAt).elim (moveOpenSlot db slotId newStartAt owner)
    fun error => .error error.code

/-- `23505` is a collision, anything else is thrown. -/
def mapCollision : Except String Db -> Except String Db
  | .error "23505" => .error "slot_collision"
  | result => result

/-- What `assignSlotDirect` does to the slots.  `billed` is whether the billing that follows
the insert lets the transaction commit. -/
def assignDirect (db : Db) (id : RowId) (input : Program.AssignSlotDirect) (billed : Bool) :
    Except String Db :=
  if UuidText.canonical input.teacherAccountId = input.learnerAccountId then
    .error "self_booking_blocked"
  else
    match (positiveInteger (some input.durationMinutes)).filter fun minutes => 30 ≤ minutes with
    | none => .error "tariff_duration_mismatch"
    | some durationMinutes =>
      if input.notes.any fun notes => notesMax < jsLength notes then
        .error "tariff_duration_mismatch"
      else
        match input.startAt with
        | none => .error "in_past"
        | some startAt =>
          if startAt ≤ db.clock then .error "in_past"
          else if outOfBand startAt then .error "start_out_of_band"
          else if db.catalog.linked input.teacherAccountId input.learnerAccountId.id = false then
            .error "learner_not_assigned"
          else
            match (db.catalog.tariff input.tariffId).filter fun tariff =>
                !tariff.isDeleted && tariff.isActive with
            | none => .error "tariff_not_active"
            | some tariff =>
              if tariff.teacherId ≠ some input.teacherAccountId then .error "tariff_not_owned"
              else if tariff.durationMinutes ≠ durationMinutes then
                .error "tariff_duration_mismatch"
              else if db.catalog.busy input.teacherAccountId startAt durationMinutes then
                .error "external_conflict"
              else if billed = false then .error "rollback"
              else
                mapCollision (insertSlot db (Program.bookedSlot id input.teacherAccountId
                  input.learnerAccountId.id startAt durationMinutes (some input.tariffId)
                  db.clock))

/-- Who moves a booked lesson: its learner, in time, or its teacher, with a reason. -/
inductive Rescheduler where
  | learner (learnerAccountId : RowId) (cancelWindowHours : Nat)
  | teacher (teacherAccountId : RowId) (reason : String)

def Rescheduler.reasonMissing : Rescheduler -> Bool
  | .learner .. => false
  | .teacher _ reason => jsLength (jsTrim reason) < 5

def Rescheduler.may (now : Nat) (row : LessonSlot) : Rescheduler -> Bool
  | .learner learnerAccountId cancelWindowHours =>
    row.learnerAccountId = some learnerAccountId && row.status = .booked &&
      now + cancelWindowHours * 3600000 ≤ row.startAt
  | .teacher teacherAccountId _ =>
    row.teacherAccountId = teacherAccountId && row.status = .booked

def Rescheduler.cancel (now : Nat) (row : LessonSlot) (by_ : Rescheduler) : LessonSlot :=
  { row with
    status := .cancelled
    cancelledAt := some now
    cancelledByAccountId := match by_ with
      | .learner learnerAccountId _ => some learnerAccountId
      | .teacher teacherAccountId _ => some teacherAccountId
    cancellationReason := match by_ with
      | .learner .. => some "reschedule"
      | .teacher _ reason => some (jsTrim reason)
    updatedAt := now }

/-- What `rescheduleSlotByLearner` and `rescheduleSlotByTeacher` do to the slots. -/
def reschedule (db : Db) (id slotId : RowId) (newStartAt : Option Nat) (by_ : Rescheduler)
    (billed : Bool) : Except String Db :=
  match newStartAt with
  | none => .error "in_past"
  | some newStartAt =>
    if by_.reasonMissing then .error "reason_required"
    else if newStartAt ≤ db.clock then .error "in_past"
    else if outOfBand newStartAt then .error "start_out_of_band"
    else
      match (db.slot? slotId).filter fun row => by_.may db.clock row with
      | none => .error "already_terminal"
      | some row =>
        match row.learnerAccountId with
        | none => .error "thrown"
        | some learnerAccountId =>
          if db.catalog.busy row.teacherAccountId newStartAt row.durationMinutes then
            .error "external_conflict"
          else if billed = false then .error "rollback"
          else
            mapCollision (insertSlot (db.apply (.slot (.replace (by_.cancel db.clock row))))
              (Program.bookedSlot id row.teacherAccountId learnerAccountId newStartAt
                row.durationMinutes row.tariffId db.clock))

variable {row : LessonSlot}

theorem mskTime_of_seconds (zero : mskTime row.startAt % 60000 = 0) :
    mskTime row.startAt = mskMinute row.startAt * 60000 := by
  have minute : mskMinute row.startAt = mskTime row.startAt / 60000 := by
    simp only [mskMinute, mskTime, mskDay]
    omega
  omega

theorem endsSameDay_iff (checked : row.checks = true) :
    row.EndsSameDay <-> mskMinute row.startAt + row.durationMinutes < 24 * 60 := by
  simp only [LessonSlot.checks, LessonSlot.startSecondsZero, Bool.and_eq_true,
    decide_eq_true_eq] at checked
  have whole := mskTime_of_seconds checked.2
  simp only [LessonSlot.EndsSameDay, lastSecond]
  omega

/-! ## Runs -/

inductive SlotRequest where
  | create (id : RowId) (input : CreateSlot)
  | bulk (input : BulkCreate)
  | move (slotId : RowId) (newStartAt : Nat) (owner : Option RowId)
  | assign (id : RowId) (input : Program.AssignSlotDirect) (billed : Bool)
  | reschedule (id slotId : RowId) (newStartAt : Option Nat) (by_ : Rescheduler) (billed : Bool)

namespace SlotRequest

def perform (isTeacher : RowId -> Bool) (db : Db) : SlotRequest -> Except String Db
  | .create id input => createSlot isTeacher db id input
  | .bulk input => bulkCreateSlots isTeacher db input
  | .move slotId newStartAt owner => moveRoute db slotId newStartAt owner
  | .assign id input billed => assignDirect db id input billed
  | .reschedule id slotId newStartAt by_ billed =>
    LevelChannel.reschedule db id slotId newStartAt by_ billed

def taken (db : Db) (teacherAccountId : RowId) (startAt : Nat) : Bool :=
  db.slots.any fun other => other.status ≠ .cancelled &&
    other.teacherAccountId = teacherAccountId && other.startAt = startAt

/-- The starts and durations a request asks for.  A move keeps the duration of the row, and
a batch passes over the starts that are taken. -/
def asked (db : Db) : SlotRequest -> List (Nat × Nat)
  | .create _ input =>
    match input.startAt, input.durationMinutes with
    | some startAt, .integer minutes => [(startAt, minutes.toNat)]
    | _, _ => []
  | .bulk input =>
    match input.durationMinutes with
    | .integer minutes =>
      ((input.slots.filterMap Prod.snd).filter fun startAt =>
        !taken db input.teacherAccountId startAt).map fun startAt => (startAt, minutes.toNat)
    | .fractional => []
  | .move slotId newStartAt _ =>
    (db.slot? slotId).toList.map fun row => (newStartAt, row.durationMinutes)
  | .assign _ input _ =>
    match input.startAt, positiveInteger (some input.durationMinutes) with
    | some startAt, some minutes => [(startAt, minutes)]
    | _, _ => []
  | .reschedule _ slotId newStartAt _ _ =>
    newStartAt.toList.flatMap fun startAt =>
      (db.slot? slotId).toList.map fun row => (startAt, row.durationMinutes)

end SlotRequest

def BeforeMidnight (time : Nat × Nat) : Prop :=
  mskMinute time.1 + time.2 < 24 * 60

instance (time : Nat × Nat) : Decidable (BeforeMidnight time) :=
  inferInstanceAs (Decidable (_ < _))

def EarlyEnough (db : Db) (request : SlotRequest) : Prop :=
  ∀ time, time ∈ request.asked db -> BeforeMidnight time

def AllEndSameDay (db : Db) : Prop :=
  ∀ row, row ∈ db.slots -> row.EndsSameDay

def LessonSlot.time (row : LessonSlot) : Nat × Nat :=
  (row.startAt, row.durationMinutes)

/-- The times of the lessons in `after` are old ones, or checked ones from a list. -/
def TimesFrom (before after : Db) (times : List (Nat × Nat)) : Prop :=
  ∀ row, row ∈ after.slots ->
    (∃ old, old ∈ before.slots ∧ old.time = row.time) ∨
      (row.checks = true ∧ row.time ∈ times)

/-- The states that can be reached from one by requests that are allowed, and by anything
else that leaves the times of the lessons as they are. -/
inductive Scheduled (allowed : Db -> SlotRequest -> Prop) (first : Db) : Db -> Prop
  | start : Scheduled allowed first first
  | request {before after : Db} (isTeacher : RowId -> Bool) (request : SlotRequest) :
      Scheduled allowed first before -> allowed before request ->
        request.perform isTeacher before = .ok after -> Scheduled allowed first after
  | elsewhere {before after : Db} :
      Scheduled allowed first before -> TimesFrom before after [] ->
        Scheduled allowed first after

variable {db after : Db} {request : SlotRequest}

@[simp] theorem snapshotOnBook_time (catalog : Catalog) (row : LessonSlot) :
    (row.snapshotOnBook catalog).time = row.time := by
  rw [LessonSlot.snapshotOnBook]
  split <;> rfl

theorem checks_congr {other : LessonSlot} (same : other.time = row.time)
    (checked : row.checks = true) : other.checks = true := by
  simp only [LessonSlot.time, Prod.mk.injEq] at same
  simp only [LessonSlot.checks, LessonSlot.durationBand, LessonSlot.withinMskDay,
    LessonSlot.startInBusinessHours, LessonSlot.startSecondsZero, same.1, same.2]
  exact checked

theorem endsSameDay_congr {other : LessonSlot} (same : other.time = row.time)
    (ends : other.EndsSameDay) : row.EndsSameDay := by
  simp only [LessonSlot.time, Prod.mk.injEq] at same
  rw [LessonSlot.EndsSameDay, <- same.1, <- same.2]
  exact ends

theorem TimesFrom.mono {middle : Db} {times more : List (Nat × Nat)}
    (first : TimesFrom db middle []) (second : TimesFrom middle after times)
    (fewer : ∀ time, time ∈ times -> time ∈ more) : TimesFrom db after more := by
  intro row member
  rcases second row member with ⟨old, listed, same⟩ | ⟨checked, asked⟩
  · rcases first old listed with ⟨older, earlier, alike⟩ | ⟨-, none_asked⟩
    · exact Or.inl ⟨older, earlier, alike.trans same⟩
    · cases none_asked
  · exact Or.inr ⟨checked, fewer _ asked⟩

theorem insertSlot_ok (done : insertSlot db row = .ok after) :
    row.checks = true ∧ after.slots = db.slots ++ [row.snapshotOnBook db.catalog] := by
  unfold insertSlot at done
  split at done
  · cases done
  · next checked =>
    split at done
    · cases done
    · cases done
      exact ⟨by simpa using checked, rfl⟩

theorem insertSlot_times (done : insertSlot db row = .ok after) :
    TimesFrom db after [row.time] := by
  rcases insertSlot_ok done with ⟨checked, slots⟩
  intro other member
  rw [slots] at member
  rcases List.mem_append.mp member with old | new
  · exact Or.inl ⟨other, old, rfl⟩
  · rw [List.mem_singleton.mp new]
    have same := snapshotOnBook_time db.catalog row
    exact Or.inr ⟨checks_congr same checked, by rw [same]; exact List.mem_singleton.mpr rfl⟩

theorem mapCollision_ok {result : Except String Db} (done : mapCollision result = .ok after) :
    result = .ok after := by
  unfold mapCollision at done
  split at done
  · cases done
  · exact done

theorem ok_of_check {check : Prop} [Decidable check] {error : String} {rest : Except String Db}
    (done : (if check then Except.error error else rest) = Except.ok after) :
    rest = Except.ok after := by
  by_cases failed : check
  · rw [if_pos failed] at done
    cases done
  · rw [if_neg failed] at done
    exact done

/-! ### The writers -/

theorem createSlot_times {isTeacher : RowId -> Bool} {id : RowId} {input : CreateSlot}
    (done : createSlot isTeacher db id input = .ok after) :
    TimesFrom db after ((SlotRequest.create id input).asked db) := by
  unfold createSlot at done
  split at done
  · cases done
  · next startAt minutes _ start duration =>
    split at done
    · cases done
    · replace done := ok_of_check done
      have asked : (SlotRequest.create id input).asked db = [(startAt, minutes.toNat)] := by
        simp only [SlotRequest.asked, start, duration]
      rw [asked]
      exact insertSlot_times done
  · cases done

theorem moveOpenSlot_times {slotId : RowId} {newStartAt : Nat} {owner : Option RowId}
    (done : moveOpenSlot db slotId newStartAt owner = .ok after) :
    TimesFrom db after ((SlotRequest.move slotId newStartAt owner).asked db) := by
  unfold moveOpenSlot at done
  split at done
  · cases done
  · next row read =>
    have asked : (SlotRequest.move slotId newStartAt owner).asked db =
        [(row.movedTo newStartAt db.clock).time] := by
      simp only [SlotRequest.asked, read, Option.toList_some, List.map_cons, List.map_nil]
      rfl
    rw [asked]
    generalize row.movedTo newStartAt db.clock = moved at done
    split at done
    · cases done
    · split at done
      · cases done
      · split at done
        · cases done
        · next checked =>
          split at done
          · cases done
          · cases done
            intro other member
            rcases mem_replace member with rfl | ⟨old, -⟩
            · exact Or.inr ⟨Bool.of_not_eq_false checked, List.mem_singleton.mpr rfl⟩
            · exact Or.inl ⟨other, old, rfl⟩

theorem moveRoute_times {slotId : RowId} {newStartAt : Nat} {owner : Option RowId}
    (done : moveRoute db slotId newStartAt owner = .ok after) :
    TimesFrom db after ((SlotRequest.move slotId newStartAt owner).asked db) := by
  unfold moveRoute at done
  cases valid : validateSlotStartMsk newStartAt with
  | some error =>
    rw [valid, Option.elim_some] at done
    cases done
  | none =>
    rw [valid, Option.elim_none] at done
    exact moveOpenSlot_times done

theorem assignDirect_times {id : RowId} {input : Program.AssignSlotDirect} {billed : Bool}
    (done : assignDirect db id input billed = .ok after) :
    TimesFrom db after ((SlotRequest.assign id input billed).asked db) := by
  unfold assignDirect at done
  replace done := ok_of_check done
  split at done
  · cases done
  · next durationMinutes duration =>
    replace done := ok_of_check done
    split at done
    · cases done
    · next startAt start =>
      have asked : (SlotRequest.assign id input billed).asked db =
          [(startAt, durationMinutes)] := by
        simp only [SlotRequest.asked, start, (Option.filter_eq_some_iff.mp duration).1]
      rw [asked]
      replace done := ok_of_check (ok_of_check (ok_of_check done))
      split at done
      · cases done
      · replace done := ok_of_check (ok_of_check (ok_of_check (ok_of_check done)))
        exact insertSlot_times (mapCollision_ok done)

theorem reschedule_times {id slotId : RowId} {newStartAt : Option Nat} {by_ : Rescheduler}
    {billed : Bool} (done : reschedule db id slotId newStartAt by_ billed = .ok after) :
    TimesFrom db after ((SlotRequest.reschedule id slotId newStartAt by_ billed).asked db) := by
  unfold reschedule at done
  split at done
  · cases done
  · next startAt =>
    replace done := ok_of_check (ok_of_check (ok_of_check done))
    split at done
    · cases done
    · next row found =>
      have read := (Option.filter_eq_some_iff.mp found).1
      have asked : (SlotRequest.reschedule id slotId (some startAt) by_ billed).asked db =
          [(startAt, row.durationMinutes)] := by
        simp [SlotRequest.asked, read]
      rw [asked]
      split at done
      · cases done
      · replace done := ok_of_check (ok_of_check done)
        have cancelled :
            TimesFrom db (db.apply (.slot (.replace (by_.cancel db.clock row)))) [] := by
          intro other member
          rcases mem_replace member with rfl | ⟨old, -⟩
          · exact Or.inl ⟨row, mem_of_get read, rfl⟩
          · exact Or.inl ⟨other, old, rfl⟩
        exact cancelled.mono (insertSlot_times (mapCollision_ok done)) fun _ one => one

theorem not_taken_of_insert (done : insertSlot db row = .ok after) :
    SlotRequest.taken db row.teacherAccountId row.startAt = false := by
  unfold insertSlot at done
  split at done
  · cases done
  · split at done
    · cases done
    · next free =>
      simp only [Bool.or_eq_true, not_or, Bool.not_eq_true] at free
      exact free.2

theorem not_taken_of_append {teacherAccountId : RowId} {startAt : Nat} {rows : List LessonSlot}
    (slots : after.slots = db.slots ++ rows)
    (free : SlotRequest.taken after teacherAccountId startAt = false) :
    SlotRequest.taken db teacherAccountId startAt = false := by
  simp only [SlotRequest.taken, slots, List.any_append, Bool.or_eq_false_iff] at free
  exact free.1

theorem bulkInsert_times {teacherAccountId : RowId} {durationMinutes : Nat}
    {tariffId : Option RowId} {slots : List (RowId × Nat)}
    (done : bulkInsert teacherAccountId durationMinutes tariffId slots db = .ok after) :
    TimesFrom db after (((slots.map Prod.snd).filter fun startAt =>
      !SlotRequest.taken db teacherAccountId startAt).map fun startAt =>
        (startAt, durationMinutes)) := by
  induction slots generalizing db with
  | nil =>
    cases done
    exact fun row member => Or.inl ⟨row, member, rfl⟩
  | cons slot slots extend =>
    rcases slot with ⟨id, startAt⟩
    unfold bulkInsert at done
    split at done
    · next middle inserted =>
      have free : SlotRequest.taken db teacherAccountId startAt = false :=
        not_taken_of_insert inserted
      have slots := (insertSlot_ok inserted).2
      have head := insertSlot_times inserted
      intro row member
      rcases extend done row member with ⟨old, listed, same⟩ | ⟨checked, asked⟩
      · rcases head old listed with ⟨older, earlier, alike⟩ | ⟨checked, asked⟩
        · exact Or.inl ⟨older, earlier, alike.trans same⟩
        · refine Or.inr ⟨checks_congr same.symm checked, ?_⟩
          rw [<- same, List.mem_singleton.mp asked]
          apply List.mem_map_of_mem
          exact List.mem_filter.mpr ⟨List.mem_cons_self, congrArg not free⟩
      · refine Or.inr ⟨checked, ?_⟩
        rcases List.mem_map.mp asked with ⟨start, chosen, same⟩
        rcases List.mem_filter.mp chosen with ⟨listed, open_⟩
        rw [<- same]
        apply List.mem_map_of_mem
        refine List.mem_filter.mpr ⟨List.mem_cons_of_mem _ listed, ?_⟩
        simp only [Bool.not_eq_true'] at open_ ⊢
        exact not_taken_of_append slots open_
    · intro row member
      rcases extend done row member with old | ⟨checked, asked⟩
      · exact Or.inl old
      · refine Or.inr ⟨checked, ?_⟩
        rcases List.mem_map.mp asked with ⟨start, chosen, same⟩
        rcases List.mem_filter.mp chosen with ⟨listed, open_⟩
        rw [<- same]
        apply List.mem_map_of_mem
        exact List.mem_filter.mpr ⟨List.mem_cons_of_mem _ listed, open_⟩
    · cases done

theorem bulkCreateSlots_times {isTeacher : RowId -> Bool} {input : BulkCreate}
    (done : bulkCreateSlots isTeacher db input = .ok after) :
    TimesFrom db after ((SlotRequest.bulk input).asked db) := by
  unfold bulkCreateSlots at done
  split at done
  · cases done
  · cases done
  · next minutes _ duration =>
    have starts : (input.slots.filterMap fun slot =>
        slot.2.map fun startAt => (slot.1, startAt)).map Prod.snd =
          input.slots.filterMap Prod.snd := by
      rw [List.map_filterMap]
      apply List.filterMap_congr
      intro slot _
      cases slot.2 <;> rfl
    split at done
    · cases done
    · split at done
      · cases done
      · split at done
        · cases done
        · split at done
          · cases done
          · split at done
            · cases done
            · have times := bulkInsert_times done
              rw [starts] at times
              simp only [SlotRequest.asked, duration]
              exact times

theorem perform_times {isTeacher : RowId -> Bool}
    (done : request.perform isTeacher db = .ok after) : TimesFrom db after (request.asked db) := by
  cases request with
  | create id input => exact createSlot_times done
  | bulk input => exact bulkCreateSlots_times done
  | move slotId newStartAt owner => exact moveRoute_times done
  | assign id input billed => exact assignDirect_times done
  | reschedule id slotId newStartAt by_ billed => exact reschedule_times done

theorem AllEndSameDay.perform (ends : AllEndSameDay db) {times : List (Nat × Nat)}
    (from_ : TimesFrom db after times) (early : ∀ time, time ∈ times -> BeforeMidnight time) :
    AllEndSameDay after := by
  intro row member
  rcases from_ row member with ⟨old, listed, same⟩ | ⟨checked, asked⟩
  · exact endsSameDay_congr same (ends old listed)
  · exact (endsSameDay_iff checked).mpr (early row.time asked)

/-- Lessons end on their day as long as nobody asks for one that reaches midnight. -/
theorem lessons_endSameDay {first last : Db} (start : AllEndSameDay first)
    (reached : Scheduled EarlyEnough first last) : AllEndSameDay last := by
  induction reached with
  | start => exact start
  | request isTeacher request _ early done ends => exact ends.perform (perform_times done) early
  | elsewhere _ same ends => exact ends.perform same fun _ none_asked => nomatch none_asked

def openingAt (hour minutes : Nat) : SlotRequest :=
  .create (.seeded 1) ⟨.seeded 7, some ((hour - 3) * 3600000), .integer minutes, none, none⟩

theorem lessons_endSameDay_evening :
    AllEndSameDay { Db.empty with slots := [openSlot (.seeded 1) (.seeded 7) (18 * 3600000) 120
      none 0] } := by
  have empty : AllEndSameDay Db.empty := fun _ member => absurd member List.not_mem_nil
  refine lessons_endSameDay empty (.request (fun _ => true) (openingAt 21 120) .start ?_ ?_)
  · unfold EarlyEnough
    decide +kernel
  · rfl

/-- The last hour for a start and the longest duration pass every check, and the lesson
ends at one in the morning. -/
theorem lesson_over_midnight :
    ¬ ∀ first last, AllEndSameDay first -> Scheduled (fun _ _ => True) first last ->
      AllEndSameDay last := by
  intro ends
  have empty : AllEndSameDay Db.empty := fun _ member => absurd member List.not_mem_nil
  have reached : Scheduled (fun _ _ => True) Db.empty { Db.empty with slots := [openSlot
      (.seeded 1) (.seeded 7) (19 * 3600000) 180 none 0] } :=
    .request (fun _ => true) (openingAt 22 180) .start trivial rfl
  have sameDay := ends _ _ empty reached _ List.mem_cons_self
  revert sameDay
  decide +kernel

end LevelChannel
