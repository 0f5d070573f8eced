import Mathlib.Data.List.MinMax
import Mathlib.Data.Prod.Lex
import Mathlib.Data.String.Basic
import LevelChannel.Lessons.Timetable
import LevelChannel.Tables.Log

namespace LevelChannel

open Tables

/-!
# Lessons that clash with another calendar

After a pull the booked lessons of a teacher are compared with the busy times of the
teacher's other calendars.  A lesson that overlaps one is stamped with the one that starts
first, and of those that start together with the one whose event comes first.  An event that
is in two calendars is two busy times that start together, and which of the two the database
answers with is its own affair.
-/

namespace Conflicts

/-- The columns of `teacher_external_busy_intervals` that the detector reads. -/
structure BusyRow where
  teacherAccountId : RowId
  externalCalendarId : String
  externalEventId : String
  startAt : Nat
  endAt : Nat
  isOwnEvent : Bool
  isOrphanSelf : Bool
  deriving DecidableEq

/-- A row of `lesson_slots` with the columns of the conflict. -/
structure StampedSlot where
  lesson : LessonSlot
  externalConflictAt : Option Nat
  externalConflictKind : Option String
  conflictSourceCalendarId : Option String
  conflictSourceEventId : Option String
  deriving DecidableEq

def StampedSlot.id (row : StampedSlot) : RowId :=
  row.lesson.id

/-- `teacher_account_id = $1 and status = 'booked' and start_at > now()` -/
def scans (teacherAccountId : RowId) (now : Nat) (row : StampedSlot) : Bool :=
  row.lesson.teacherAccountId = teacherAccountId && row.lesson.status = .booked &&
    now < row.lesson.startAt

/-- `new Date(String(row.start_at))`: the text of a date has no milliseconds. -/
def wholeSeconds (time : Nat) : Nat :=
  time / 1000 * 1000

/-- `&&` of two half-open ranges; an empty one overlaps nothing. -/
def rangesOverlap (start end_ otherStart otherEnd : Nat) : Bool :=
  start < end_ && otherStart < otherEnd && start < otherEnd && otherStart < end_

def overlaps (teacherAccountId : RowId) (startAt durationMinutes : Nat) (busy : BusyRow) : Bool :=
  busy.teacherAccountId = teacherAccountId && !busy.isOwnEvent && !busy.isOrphanSelf &&
    rangesOverlap busy.startAt busy.endAt startAt (startAt + durationMinutes * 60000)

def candidates (cache : List BusyRow) (teacherAccountId : RowId) (row : StampedSlot) :
    List BusyRow :=
  cache.filter (overlaps teacherAccountId (wholeSeconds row.lesson.startAt)
    row.lesson.durationMinutes)

section Order

variable {Rank : Type} [LinearOrder Rank] (collate : String -> Rank)

/-- `order by start_at asc, external_event_id asc` -/
def orderKey (busy : BusyRow) : Nat ×ₗ Rank :=
  toLex (busy.startAt, collate busy.externalEventId)

def Least (rows : List BusyRow) (busy : BusyRow) : Prop :=
  busy ∈ rows ∧ ∀ other, other ∈ rows -> orderKey collate busy ≤ orderKey collate other

/-- What `limit 1` may answer. -/
def Answers (rows : List BusyRow) : Option BusyRow -> Prop
  | none => rows = []
  | some busy => Least collate rows busy

end Order

/-! ## The run -/

structure Outcome where
  scanned : Nat
  conflictsStamped : Nat
  conflictsCleared : Nat
  conflictsUnchanged : Nat
  deriving DecidableEq

/-- `row.column ? String(row.column) : null` -/
def orNull (text : Option String) : Option String :=
  text.filter fun text => text ≠ ""

inductive Action where
  | leave
  | clear
  | stamp (calendarId eventId : String)
  deriving DecidableEq

/-- What the loop decides for a slot, given the answer of the overlap query. -/
def decideFor (row : StampedSlot) : Option BusyRow -> Action
  | none => if row.externalConflictAt.isSome then .clear else .leave
  | some busy =>
    if row.externalConflictAt.isSome &&
        orNull row.conflictSourceCalendarId = some busy.externalCalendarId &&
        orNull row.conflictSourceEventId = some busy.externalEventId then .leave
    else .stamp busy.externalCalendarId busy.externalEventId

/-- The update of a slot, at its own `now()`. -/
def Action.update (now : Nat) : Action -> StampedSlot -> StampedSlot
  | .leave, row => row
  | .clear, row =>
    { row with
      lesson := { row.lesson with updatedAt := now }
      externalConflictAt := none
      externalConflictKind := none
      conflictSourceCalendarId := none
      conflictSourceEventId := none }
  | .stamp calendarId eventId, row =>
    { row with
      lesson := { row.lesson with updatedAt := now }
      externalConflictAt := some now
      externalConflictKind := some "post_book_overlap"
      conflictSourceCalendarId := some calendarId
      conflictSourceEventId := some eventId }

def Action.count : Action -> Outcome -> Outcome
  | .leave, outcome => { outcome with conflictsUnchanged := outcome.conflictsUnchanged + 1 }
  | .clear, outcome => { outcome with conflictsCleared := outcome.conflictsCleared + 1 }
  | .stamp _ _, outcome => { outcome with conflictsStamped := outcome.conflictsStamped + 1 }

/-- What the database does in a run: its answer to the overlap query of each slot, and the
time of each update. -/
structure Course where
  answer : RowId -> Option BusyRow
  moment : RowId -> Nat

def Course.action (course : Course) (row : StampedSlot) : Action :=
  decideFor row (course.answer row.id)

def turn (course : Course) (state : List StampedSlot × Outcome) (row : StampedSlot) :
    List StampedSlot × Outcome :=
  (state.1.map fun slot =>
      if slot.id = row.id then (course.action row).update (course.moment row.id) slot else slot,
    (course.action row).count state.2)

def runConflictDetectionForTeacher (course : Course) (teacherAccountId : RowId) (now : Nat)
    (slots : List StampedSlot) : List StampedSlot × Outcome :=
  let rows := slots.filter (scans teacherAccountId now)
  rows.foldl (turn course) (slots, ⟨rows.length, 0, 0, 0⟩)

section Run

variable {course : Course} {teacherAccountId : RowId} {now : Nat} {slots rows : List StampedSlot}

@[simp] theorem Action.update_id (now : Nat) (action : Action) (row : StampedSlot) :
    (action.update now row).id = row.id := by
  cases action <;> rfl

def settled (course : Course) (teacherAccountId : RowId) (now : Nat) (slot : StampedSlot) :
    StampedSlot :=
  if scans teacherAccountId now slot then
    (course.action slot).update (course.moment slot.id) slot
  else slot

theorem foldl_turn (unique : Unique StampedSlot.id rows) (table : List StampedSlot)
    (outcome : Outcome) :
    (rows.foldl (turn course) (table, outcome)).1 = table.map fun slot =>
      match get StampedSlot.id rows slot.id with
      | none => slot
      | some row => (course.action row).update (course.moment row.id) slot := by
  induction rows generalizing table outcome with
  | nil => exact (List.map_id' table).symm
  | cons row rest extend =>
    have parts := List.nodup_cons.mp unique
    have fresh : get StampedSlot.id rest row.id = none := by
      refine get_eq_none_iff.mpr fun other member same => parts.1 ?_
      exact List.mem_map.mpr ⟨other, member, same⟩
    rw [List.foldl_cons, turn, extend parts.2, List.map_map]
    refine List.map_congr_left fun slot _ => ?_
    by_cases same : slot.id = row.id
    · have here : get StampedSlot.id (row :: rest) slot.id = some row := by
        rw [Tables.get, List.find?_cons, decide_eq_true same.symm]
      rw [Function.comp_apply, if_pos same, here, Action.update_id, same, fresh]
    · have there : get StampedSlot.id (row :: rest) slot.id =
          get StampedSlot.id rest slot.id := by
        rw [Tables.get, List.find?_cons, decide_eq_false (Ne.symm same)]
        rfl
      simp only [Function.comp_apply, if_neg same]
      rw [there]

theorem run_slots (unique : Unique StampedSlot.id slots) :
    (runConflictDetectionForTeacher course teacherAccountId now slots).1 =
      slots.map (settled course teacherAccountId now) := by
  have distinct : Unique StampedSlot.id (slots.filter (scans teacherAccountId now)) :=
    List.Nodup.sublist (List.filter_sublist.map _) unique
  rw [runConflictDetectionForTeacher, foldl_turn distinct]
  refine List.map_congr_left fun slot member => ?_
  rw [settled]
  cases scanned : scans teacherAccountId now slot with
  | true =>
    rw [get_of_mem distinct (List.mem_filter.mpr ⟨member, scanned⟩)]
    rfl
  | false =>
    have missed : get StampedSlot.id (slots.filter (scans teacherAccountId now)) slot.id =
        none := by
      refine get_eq_none_iff.mpr fun other listed same => ?_
      have parts := List.mem_filter.mp listed
      have equal : other = slot := List.inj_on_of_nodup_map unique parts.1 member same
      rw [equal, scanned] at parts
      cases parts.2
    rw [missed]
    rfl

end Run

/-! ## What a run establishes -/

/-- A busy time that is neither our own event nor one of an earlier connection, and shares a
moment with the lesson. -/
def Clashes (teacherAccountId : RowId) (row : StampedSlot) (busy : BusyRow) : Prop :=
  busy.teacherAccountId = teacherAccountId ∧ busy.isOwnEvent = false ∧
    busy.isOrphanSelf = false ∧
    ∃ moment, busy.startAt ≤ moment ∧ moment < busy.endAt ∧ row.lesson.startAt ≤ moment ∧
      moment < row.lesson.endAt

section Laws

variable {Rank : Type} [LinearOrder Rank] (collate : String -> Rank) (cache : List BusyRow)
  (teacherAccountId : RowId) (now : Nat)

/-- The busy time is the first that clashes with the lesson, by start and event. -/
def FirstClash (row : StampedSlot) (busy : BusyRow) : Prop :=
  busy ∈ cache ∧ Clashes teacherAccountId row busy ∧ ∀ other, other ∈ cache ->
    Clashes teacherAccountId row other -> orderKey collate busy ≤ orderKey collate other

/-- The stamps of the booked lessons to come are right. -/
structure Detected (before after : List StampedSlot) : Prop where
  stamped : ∀ row, row ∈ after -> scans teacherAccountId now row = true ->
    (row.externalConflictAt.isSome = true <->
      ∃ busy, busy ∈ cache ∧ Clashes teacherAccountId row busy)
  source : ∀ row, row ∈ after -> scans teacherAccountId now row = true ->
    row.externalConflictAt.isSome = true -> ∃ busy,
      FirstClash collate cache teacherAccountId row busy ∧
        row.conflictSourceCalendarId = some busy.externalCalendarId ∧
        row.conflictSourceEventId = some busy.externalEventId
  kept : ∀ old row, old ∈ before -> row ∈ after -> row.id = old.id ->
    scans teacherAccountId now row = true -> old.externalConflictAt.isSome = true ->
      row.externalConflictAt.isSome = true ->
      row.conflictSourceCalendarId = old.conflictSourceCalendarId ->
        row.conflictSourceEventId = old.conflictSourceEventId ->
          row.externalConflictAt = old.externalConflictAt

/-- The database answers the queries of the run as it may. -/
def Course.Valid (course : Course) (slots : List StampedSlot) : Prop :=
  ∀ row, row ∈ slots -> scans teacherAccountId now row = true ->
    Answers collate (candidates cache teacherAccountId row) (course.answer row.id)

/-- Every run establishes the stamps, and every later run on the same busy times leaves
everything as it is. -/
def DetectsOnce (slots : List StampedSlot) : Prop :=
  ∀ course : Course, course.Valid collate cache teacherAccountId now slots ->
    let after := (runConflictDetectionForTeacher course teacherAccountId now slots).1
    Detected collate cache teacherAccountId now slots after ∧
      ∀ (again : Course) (later : Nat), now ≤ later ->
        again.Valid collate cache teacherAccountId later after ->
          (runConflictDetectionForTeacher again teacherAccountId later after).1 = after

/-- What can be recorded of the first clash of a booked lesson to come is one text that is not
empty for its calendar, and one for its event. -/
def OneFirstClash (slots : List StampedSlot) : Prop :=
  ∀ row, row ∈ slots -> scans teacherAccountId now row = true ->
    ∀ busy other, FirstClash collate cache teacherAccountId row busy ->
      FirstClash collate cache teacherAccountId row other ->
        busy.externalCalendarId = other.externalCalendarId ∧ busy.externalCalendarId ≠ "" ∧
          busy.externalEventId ≠ ""

/-- The constraints of the tables. -/
structure ConflictTables (slots : List StampedSlot) : Prop where
  unique : Unique StampedSlot.id slots
  checks : ∀ row, row ∈ slots -> row.lesson.checks = true

variable {collate cache teacherAccountId now} {row : StampedSlot} {busy : BusyRow}

theorem overlaps_iff (checks : row.lesson.checks = true) :
    overlaps teacherAccountId (wholeSeconds row.lesson.startAt) row.lesson.durationMinutes
      busy = true <-> Clashes teacherAccountId row busy := by
  have whole : wholeSeconds row.lesson.startAt = row.lesson.startAt := by
    simp only [LessonSlot.checks, LessonSlot.startSecondsZero, Bool.and_eq_true] at checks
    have minute := of_decide_eq_true checks.2
    simp only [mskTime, mskDay] at minute
    rw [wholeSeconds]
    omega
  rw [whole]
  simp only [overlaps, rangesOverlap, Clashes, Bool.and_eq_true, decide_eq_true_eq,
    Bool.not_eq_true', and_assoc, LessonSlot.endAt]
  refine and_congr_right fun _ => and_congr_right fun _ => and_congr_right fun _ => ?_
  constructor
  · rintro ⟨busyTime, lessonTime, first, second⟩
    exact ⟨max busy.startAt row.lesson.startAt, by omega, by omega, by omega, by omega⟩
  · rintro ⟨moment, from_, until_, begun, ended⟩
    omega

theorem least_iff (checks : row.lesson.checks = true) :
    Least collate (candidates cache teacherAccountId row) busy <->
      FirstClash collate cache teacherAccountId row busy := by
  simp only [Least, candidates, List.mem_filter, overlaps_iff checks, FirstClash, and_assoc,
    and_imp]

theorem answers_none_iff (checks : row.lesson.checks = true) :
    candidates cache teacherAccountId row = [] <->
      ¬ ∃ busy, busy ∈ cache ∧ Clashes teacherAccountId row busy := by
  rw [candidates, List.filter_eq_nil_iff, not_exists]
  refine forall_congr' fun busy => ?_
  rw [overlaps_iff checks, not_and]

theorem exists_answer (collate : String -> Rank) (rows : List BusyRow) :
    ∃ answer, Answers collate rows answer := by
  cases found : rows.argmin (orderKey collate) with
  | none => exact ⟨none, List.argmin_eq_none.mp found⟩
  | some busy =>
    exact ⟨some busy, List.argmin_mem found, fun other member => List.le_of_mem_argmin member found⟩

theorem clashes_update (moment : Nat) (action : Action) :
    Clashes teacherAccountId (action.update moment row) busy <->
      Clashes teacherAccountId row busy := by
  cases action <;> rfl

theorem firstClash_update (moment : Nat) (action : Action) :
    FirstClash collate cache teacherAccountId (action.update moment row) busy <->
      FirstClash collate cache teacherAccountId row busy := by
  simp only [FirstClash, clashes_update]

@[simp] theorem scans_update (later moment : Nat) (action : Action) :
    scans teacherAccountId later (action.update moment row) =
      scans teacherAccountId later row := by
  cases action <;> rfl

@[simp] theorem checks_update (moment : Nat) (action : Action) :
    (action.update moment row).lesson.checks = row.lesson.checks := by
  cases action <;> rfl

theorem decideFor_eq_leave_iff (stamped : row.externalConflictAt.isSome = true) :
    decideFor row (some busy) = .leave <->
      row.conflictSourceCalendarId = some busy.externalCalendarId ∧
        row.conflictSourceEventId = some busy.externalEventId ∧
          busy.externalCalendarId ≠ "" ∧ busy.externalEventId ≠ "" := by
  have read : ∀ (column : Option String) (text : String),
      orNull column = some text <-> column = some text ∧ text ≠ "" := fun column text => by
    rw [orNull, Option.filter_eq_some_iff, decide_eq_true_eq]
  simp only [decideFor, stamped, Bool.true_and, Bool.and_eq_true, decide_eq_true_eq, read]
  constructor
  · intro left
    by_contra other
    rw [if_neg (by tauto)] at left
    cases left
  · rintro ⟨calendar, event, calendarText, eventText⟩
    rw [if_pos ⟨⟨calendar, calendarText⟩, event, eventText⟩]

theorem settled_none {course : Course} (scanned : scans teacherAccountId now row = true)
    (answer : course.answer row.id = none) :
    (settled course teacherAccountId now row).externalConflictAt = none := by
  rw [settled, if_pos scanned, Course.action, answer]
  cases stamped : row.externalConflictAt with
  | none => simp [decideFor, stamped, Action.update]
  | some since => simp [decideFor, stamped, Action.update]

theorem settled_some {course : Course} (scanned : scans teacherAccountId now row = true)
    (answer : course.answer row.id = some busy) :
    let after := settled course teacherAccountId now row
    after.externalConflictAt.isSome = true ∧
      after.conflictSourceCalendarId = some busy.externalCalendarId ∧
      after.conflictSourceEventId = some busy.externalEventId := by
  intro after
  have made : after = (decideFor row (some busy)).update (course.moment row.id) row := by
    rw [← answer]
    exact if_pos scanned
  by_cases left : row.externalConflictAt.isSome = true ∧ decideFor row (some busy) = .leave
  · rw [made, left.2]
    have same := (decideFor_eq_leave_iff left.1).mp left.2
    exact ⟨left.1, same.1, same.2.1⟩
  · have stamps : decideFor row (some busy) =
        .stamp busy.externalCalendarId busy.externalEventId := by
      rw [not_and] at left
      simp only [decideFor] at left ⊢
      split
      · next same =>
        rw [if_pos same] at left
        simp only [Bool.and_eq_true] at same
        exact absurd rfl (left same.1.1)
      · rfl
    rw [made, stamps]
    exact ⟨rfl, rfl, rfl⟩

theorem firstClash_of_valid {course : Course} {slots : List StampedSlot}
    (tables : ConflictTables slots) (valid : course.Valid collate cache teacherAccountId now slots)
    (member : row ∈ slots) (scanned : scans teacherAccountId now row = true)
    (answer : course.answer row.id = some busy) :
    FirstClash collate cache teacherAccountId row busy := by
  have answered := valid row member scanned
  rw [answer] at answered
  exact (least_iff (tables.checks row member)).mp answered

theorem unclashed_of_valid {course : Course} {slots : List StampedSlot}
    (tables : ConflictTables slots) (valid : course.Valid collate cache teacherAccountId now slots)
    (member : row ∈ slots) (scanned : scans teacherAccountId now row = true)
    (answer : course.answer row.id = none) :
    ¬ ∃ busy, busy ∈ cache ∧ Clashes teacherAccountId row busy := by
  have answered := valid row member scanned
  rw [answer] at answered
  exact (answers_none_iff (tables.checks row member)).mp answered

@[simp] theorem settled_id {course : Course} :
    (settled course teacherAccountId now row).id = row.id := by
  rw [settled]
  split
  · exact Action.update_id _ _ _
  · rfl

@[simp] theorem settled_lesson_clash {course : Course} :
    FirstClash collate cache teacherAccountId (settled course teacherAccountId now row) busy <->
      FirstClash collate cache teacherAccountId row busy := by
  rw [settled]
  split
  · exact firstClash_update _ _
  · rfl

@[simp] theorem settled_clashes {course : Course} :
    Clashes teacherAccountId (settled course teacherAccountId now row) busy <->
      Clashes teacherAccountId row busy := by
  rw [settled]
  split
  · exact clashes_update _ _
  · rfl

@[simp] theorem settled_scans {course : Course} (later : Nat) :
    scans teacherAccountId later (settled course teacherAccountId now row) =
      scans teacherAccountId later row := by
  rw [settled]
  split
  · exact scans_update _ _ _
  · rfl

@[simp] theorem settled_checks {course : Course} :
    (settled course teacherAccountId now row).lesson.checks = row.lesson.checks := by
  rw [settled]
  split
  · exact checks_update _ _
  · rfl

theorem ConflictTables.settled {course : Course} {slots : List StampedSlot}
    (tables : ConflictTables slots) :
    ConflictTables (slots.map (settled course teacherAccountId now)) where
  unique := Unique.map (fun _ => settled_id) tables.unique
  checks row member := by
    rcases List.mem_map.mp member with ⟨old, listed, rfl⟩
    rw [settled_checks]
    exact tables.checks old listed

theorem detected {course : Course} {slots : List StampedSlot} (tables : ConflictTables slots)
    (valid : course.Valid collate cache teacherAccountId now slots)
    (one : OneFirstClash collate cache teacherAccountId now slots) :
    Detected collate cache teacherAccountId now slots
      (slots.map (settled course teacherAccountId now)) := by
  constructor
  · intro row member scanned
    rcases List.mem_map.mp member with ⟨old, listed, rfl⟩
    rw [settled_scans] at scanned
    simp only [settled_clashes]
    cases answer : course.answer old.id with
    | none =>
      rw [settled_none scanned answer]
      exact iff_of_false Bool.false_ne_true
        (unclashed_of_valid tables valid listed scanned answer)
    | some busy =>
      have first := firstClash_of_valid tables valid listed scanned answer
      exact iff_of_true (settled_some scanned answer).1 ⟨busy, first.1, first.2.1⟩
  · intro row member scanned stamped
    rcases List.mem_map.mp member with ⟨old, listed, rfl⟩
    rw [settled_scans] at scanned
    cases answer : course.answer old.id with
    | none =>
      rw [settled_none scanned answer] at stamped
      cases stamped
    | some busy =>
      have first := firstClash_of_valid tables valid listed scanned answer
      exact ⟨busy, settled_lesson_clash.mpr first, (settled_some scanned answer).2⟩
  · intro old row listed member same scanned had stamped calendar event
    rcases List.mem_map.mp member with ⟨read, there, rfl⟩
    have equal : read = old := List.inj_on_of_nodup_map tables.unique there listed
      (settled_id.symm.trans same)
    subst equal
    rw [settled_scans] at scanned
    cases answer : course.answer read.id with
    | none =>
      rw [settled_none scanned answer] at stamped
      cases stamped
    | some busy =>
      have first := firstClash_of_valid tables valid listed scanned answer
      have texts := one read listed scanned busy busy first first
      have source := (settled_some scanned answer).2
      have left := (decideFor_eq_leave_iff had).mpr
        ⟨calendar ▸ source.1, event ▸ source.2, texts.2.1, texts.2.2⟩
      rw [settled, if_pos scanned, Course.action, answer, left]
      rfl

theorem firstClash_event (told : Function.Injective collate) {other : BusyRow}
    (first : FirstClash collate cache teacherAccountId row busy)
    (second : FirstClash collate cache teacherAccountId row other) :
    busy.externalEventId = other.externalEventId := by
  have same := le_antisymm (first.2.2 other second.1 second.2.1)
    (second.2.2 busy first.1 first.2.1)
  have pair := Prod.mk.inj (toLex.injective same)
  exact told pair.2

theorem again_leaves (told : Function.Injective collate) {course again : Course}
    {slots : List StampedSlot} (tables : ConflictTables slots)
    (valid : course.Valid collate cache teacherAccountId now slots)
    (one : OneFirstClash collate cache teacherAccountId now slots) {later : Nat}
    (after : now ≤ later) (validAgain : again.Valid collate cache teacherAccountId later
      (slots.map (settled course teacherAccountId now))) (member : row ∈ slots) :
    settled again teacherAccountId later (settled course teacherAccountId now row) =
      settled course teacherAccountId now row := by
  have tablesAfter : ConflictTables (slots.map (settled course teacherAccountId now)) :=
    tables.settled
  have here : settled course teacherAccountId now row ∈
      slots.map (settled course teacherAccountId now) := List.mem_map_of_mem member
  by_cases scannedLater : scans teacherAccountId later row = true
  · have scanned : scans teacherAccountId now row = true := by
      simp only [scans, Bool.and_eq_true, decide_eq_true_eq] at scannedLater ⊢
      exact ⟨scannedLater.1, by omega⟩
    have scannedAgain : scans teacherAccountId later (settled course teacherAccountId now row) =
        true := by
      rw [settled_scans]
      exact scannedLater
    cases answer : course.answer row.id with
    | none =>
      have unclashed := unclashed_of_valid tables valid member scanned answer
      cases answerAgain : again.answer (settled course teacherAccountId now row).id with
      | none =>
        have cleared := settled_none scanned answer
        rw [settled, if_pos scannedAgain, Course.action, answerAgain, decideFor, cleared]
        rfl
      | some other =>
        have first := settled_lesson_clash.mp
          (firstClash_of_valid tablesAfter validAgain here scannedAgain answerAgain)
        exact absurd ⟨other, first.1, first.2.1⟩ unclashed
    | some busy =>
      have first := firstClash_of_valid tables valid member scanned answer
      rcases settled_some scanned answer with ⟨stamped, calendar, event⟩
      cases answerAgain : again.answer (settled course teacherAccountId now row).id with
      | none =>
        have unclashed := unclashed_of_valid tablesAfter validAgain here scannedAgain answerAgain
        exact absurd ⟨busy, first.1, settled_clashes.mpr first.2.1⟩ unclashed
      | some other =>
        have second := settled_lesson_clash.mp
          (firstClash_of_valid tablesAfter validAgain here scannedAgain answerAgain)
        have texts := one row member scanned busy other first second
        have events := firstClash_event told first second
        have left := (decideFor_eq_leave_iff stamped).mpr ⟨calendar.trans (congrArg some texts.1),
          event.trans (congrArg some events), texts.1 ▸ texts.2.1, events ▸ texts.2.2⟩
        rw [settled, if_pos scannedAgain, Course.action, answerAgain, left]
        rfl
  · rw [settled, if_neg]
    rw [settled_scans]
    exact scannedLater

theorem exists_valid_course {slots : List StampedSlot} (tables : ConflictTables slots)
    (member : row ∈ slots) (first : FirstClash collate cache teacherAccountId row busy)
    (moment : RowId -> Nat) :
    ∃ course : Course, course.Valid collate cache teacherAccountId now slots ∧
      course.answer row.id = some busy ∧ course.moment = moment := by
  choose any may using exists_answer collate
  let answer (id : RowId) : Option BusyRow :=
    if id = row.id then some busy
    else (get StampedSlot.id slots id).bind fun slot => any (candidates cache teacherAccountId slot)
  refine ⟨⟨answer, moment⟩, fun slot listed _ => ?_, if_pos rfl, rfl⟩
  by_cases same : slot.id = row.id
  · have equal : slot = row := List.inj_on_of_nodup_map tables.unique listed member same
    show Answers collate _ (answer slot.id)
    simp only [answer, if_pos same]
    rw [equal]
    exact (least_iff (tables.checks row member)).mpr first
  · show Answers collate _ (answer slot.id)
    simp only [answer, if_neg same]
    rw [get_of_mem tables.unique listed]
    exact may _

/-- Whatever the database answers, the stamps are right and stay, if and only if no booked lesson
to come has two first clashes in different calendars (or one whose texts are empty). -/
theorem detects_once_iff (told : Function.Injective collate) {slots : List StampedSlot}
    (tables : ConflictTables slots) : DetectsOnce collate cache teacherAccountId now slots <->
      OneFirstClash collate cache teacherAccountId now slots := by
  constructor
  · intro once row member scanned busy other first second
    -- two runs that the database may answer with the one and with the other, the second later
    rcases exists_valid_course tables member first fun _ => 0 with ⟨course, valid, answer, -⟩
    have stays := (once course valid).2
    rw [run_slots tables.unique] at stays
    let after := settled course teacherAccountId now row
    have here : after ∈ slots.map (settled course teacherAccountId now) :=
      List.mem_map_of_mem member
    have tablesAfter : ConflictTables (slots.map (settled course teacherAccountId now)) :=
      tables.settled
    rcases exists_valid_course tablesAfter here (settled_lesson_clash.mpr second) fun _ =>
      after.externalConflictAt.getD 0 + 1 with ⟨again, validAgain, answerAgain, moment⟩
    have same := stays again now (Nat.le_refl now) validAgain
    rw [run_slots tablesAfter.unique] at same
    have left : settled again teacherAccountId now after = after :=
      List.map_inj_left.mp (same.trans (List.map_id _).symm) after here
    have scannedAgain : scans teacherAccountId now after = true := by
      rw [settled_scans]
      exact scanned
    rcases settled_some scanned answer with ⟨stamped, calendar, event⟩
    have leaves : decideFor after (some other) = .leave := by
      rw [settled, if_pos scannedAgain, Course.action, answerAgain, moment] at left
      cases decided : decideFor after (some other) with
      | leave => rfl
      | clear =>
        rw [decided] at left
        have gone := congrArg StampedSlot.externalConflictAt left
        rw [← gone] at stamped
        cases stamped
      | stamp calendarId eventId =>
        rw [decided] at left
        have later := congrArg (fun slot => slot.externalConflictAt.getD 0) left
        exact absurd later (by simp [Action.update])
    have texts := (decideFor_eq_leave_iff stamped).mp leaves
    have calendars := Option.some.inj (calendar.symm.trans texts.1)
    have events := Option.some.inj (event.symm.trans texts.2.1)
    exact ⟨calendars, calendars ▸ texts.2.2.1, events ▸ texts.2.2.2⟩
  · intro one course valid
    rw [run_slots tables.unique]
    refine ⟨detected tables valid one, fun again later after validAgain => ?_⟩
    have distinct : Unique StampedSlot.id (slots.map (settled course teacherAccountId now)) :=
      tables.settled.unique
    rw [run_slots distinct, List.map_map]
    exact List.map_congr_left fun row member =>
      again_leaves told tables valid one after validAgain member

end Laws

private def eventIn (externalCalendarId : String) : BusyRow :=
  ⟨.seeded 1, externalCalendarId, "event", 9 * 3600000, 10 * 3600000, false, false⟩

private def clashing : StampedSlot :=
  ⟨Program.bookedSlot (.seeded 2) (.seeded 1) (.seeded 3) (9 * 3600000) 60 none 0, none, none,
    none, none⟩

private theorem clashing_tables : ConflictTables [clashing] where
  unique := List.nodup_singleton _
  checks := by
    intro row member
    rw [List.mem_singleton.mp member]
    decide

private def answered (busy : BusyRow) (moment : Nat) : Course :=
  ⟨fun _ => some busy, fun _ => moment⟩

/-- The second run records the other calendar, and the time at which it did. -/
theorem detects_again : ¬ ∀ (cache : List BusyRow) (teacherAccountId : RowId) (now : Nat)
    (slots : List StampedSlot), ConflictTables slots ->
      DetectsOnce (id : String -> String) cache teacherAccountId now slots := by
  intro once
  let cache := [eventIn "family", eventIn "work"]
  have least : ∀ busy, busy ∈ cache ->
      Least (id : String -> String) (candidates cache (.seeded 1) clashing) busy := by
    have found : candidates cache (.seeded 1) clashing = cache := by decide
    intro busy member
    rw [found]
    refine ⟨member, fun other listed => ?_⟩
    have keys : ∀ busy, busy ∈ cache ->
        orderKey (id : String -> String) busy = toLex (9 * 3600000, "event") := by
      intro busy member
      rcases List.mem_pair.mp member with rfl | rfl <;> rfl
    rw [keys busy member, keys other listed]
  let first := answered (eventIn "family") 1
  let second := answered (eventIn "work") 2
  let after := (runConflictDetectionForTeacher first (.seeded 1) 0 [clashing]).1
  have valid : first.Valid (id : String -> String) cache (.seeded 1) 0 [clashing] := by
    intro row member _
    rw [List.mem_singleton.mp member]
    exact least _ List.mem_cons_self
  have validAgain : second.Valid (id : String -> String) cache (.seeded 1) 0 after := by
    intro row member _
    have asks : ∀ row, row ∈ after ->
        candidates cache (.seeded 1) row = candidates cache (.seeded 1) clashing := by decide
    rw [asks row member]
    exact least _ (List.mem_cons_of_mem _ List.mem_cons_self)
  have same := (once cache (.seeded 1) 0 [clashing] clashing_tables first valid).2 second 0
    (Nat.le_refl 0) validAgain
  revert same
  decide

/-- An event in one calendar is recorded once. -/
theorem detects_once_for_one :
    DetectsOnce (id : String -> String) [eventIn "work"] (.seeded 1) 0 [clashing] :=
  (detects_once_iff Function.injective_id clashing_tables).mpr <| by
    intro row _ _ busy other first second
    rw [List.mem_singleton.mp first.1, List.mem_singleton.mp second.1]
    exact ⟨rfl, by decide, by decide⟩

end Conflicts

end LevelChannel
