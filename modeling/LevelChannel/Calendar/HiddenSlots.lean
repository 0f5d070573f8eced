import Mathlib.Data.List.Sort
import LevelChannel.Calendar.Conflicts
import LevelChannel.Calendar.Integrations
import LevelChannel.Clocks.Zone
import LevelChannel.Tables.Joins

namespace LevelChannel

open Clocks Tables

/-!
# Slots that a calendar hides

A learner cannot book an open slot while the teacher's other calendars are busy.  The teacher is
shown these slots, with the number of busy times that each of them runs into.  The gate of a
booking compares ranges and the listing compares their ends; both only look at the cache of a
calendar that has been pulled in the last ten minutes.
-/

namespace HiddenSlots

open Conflicts (BusyRow wholeSeconds rangesOverlap)

/-- The columns of `teacher_calendar_integrations` that the gate reads. -/
structure CalendarState where
  syncState : Calendar.SyncState
  lastPulledAt : Option Nat
  deriving DecidableEq

/-- What the database holds at an instant, with the time zone of its session. -/
structure Snapshot where
  now : Nat
  session : Zone
  slots : List LessonSlot
  cache : List BusyRow
  integration : (accountId : RowId) -> Option CalendarState

/-- `ACTIVE_INTEGRATION_GATE_SQL` -/
def activeIntegration (snapshot : Snapshot) (accountId : RowId) : Bool :=
  (snapshot.integration accountId).any fun tci =>
    decide (tci.syncState = .active) &&
      tci.lastPulledAt.any fun pulled => decide (snapshot.now ≤ pulled + 10 * 60000)

def blocks (teacherAccountId : RowId) (startAt durationMinutes : Nat) (busy : BusyRow) : Bool :=
  decide (busy.teacherAccountId = teacherAccountId) && !busy.isOwnEvent &&
    rangesOverlap busy.startAt busy.endAt startAt (startAt + durationMinutes * 60000)

/-- The row that `BUSY_OVERLAP_GATE_SQL` wants not to exist. -/
def busyOverlap (snapshot : Snapshot) (teacherAccountId : RowId)
    (startAt durationMinutes : Nat) : Bool :=
  snapshot.cache.any fun busy =>
    activeIntegration snapshot busy.teacherAccountId &&
      blocks teacherAccountId startAt durationMinutes busy

structure BookingAttempt where
  slotId : RowId
  learnerAccountId : RowId
  expectedTeacherId : Option RowId

def bookable (snapshot : Snapshot) (input : BookingAttempt) (row : LessonSlot) : Bool :=
  decide (row.status = .open) && decide (snapshot.now < row.startAt) &&
    decide (row.teacherAccountId ≠ input.learnerAccountId) &&
    input.expectedTeacherId.all (fun expected => decide (row.teacherAccountId = expected)) &&
    !busyOverlap snapshot row.teacherAccountId row.startAt row.durationMinutes

def classifyBookSlotFailure (snapshot : Snapshot) (input : BookingAttempt) : String :=
  match get LessonSlot.id snapshot.slots input.slotId with
  | none => "not_found"
  | some row =>
    if input.expectedTeacherId.any fun expected => decide (row.teacherAccountId ≠ expected) then
      "not_found"
    else if row.teacherAccountId = input.learnerAccountId then "self_booking_blocked"
    else if wholeSeconds row.startAt ≤ snapshot.now then "in_past"
    else if row.status = .open ∧ busyOverlap snapshot row.teacherAccountId
        (wholeSeconds row.startAt) row.durationMinutes then
      "external_conflict"
    else "not_open"

/-- Why `bookSlot` cannot reserve the slot, if it cannot. -/
def refusal (snapshot : Snapshot) (input : BookingAttempt) : Option String :=
  if (get LessonSlot.id snapshot.slots input.slotId).any (bookable snapshot input) then none
  else some (classifyBookSlotFailure snapshot input)

theorem bookable_eq (snapshot : Snapshot) (input : Program.BookSlot) (own : Db)
    (row : LessonSlot) (same : own.catalog.busy = busyOverlap snapshot) :
    Program.bookable snapshot.now input own row =
      bookable snapshot ⟨input.slotId, input.learnerAccountId, input.expectedTeacherId⟩ row := by
  rw [Program.bookable, bookable, same]

/-- `now() + days * interval '1 day'`, by the calendar of the session. -/
def windowEnd (snapshot : Snapshot) (days : Int) : Int :=
  snapshot.session.cast (snapshot.session.wall snapshot.now + 86400000 * days)

def inWindow (snapshot : Snapshot) (teacherAccountId : RowId) (days : Int) (slot : LessonSlot) :
    Bool :=
  decide (slot.teacherAccountId = teacherAccountId) && decide (slot.status = .open) &&
    decide (snapshot.now < slot.startAt) && decide (slot.startAt < windowEnd snapshot days)

/-- The condition on which both queries join a slot and a busy interval. -/
def overlapping (snapshot : Snapshot) (teacherAccountId : RowId) (days : Int)
    (slot : LessonSlot) (busy : BusyRow) : Bool :=
  decide (busy.teacherAccountId = slot.teacherAccountId) &&
    activeIntegration snapshot slot.teacherAccountId &&
    inWindow snapshot teacherAccountId days slot && !busy.isOwnEvent &&
    decide (slot.startAt < busy.endAt) &&
    decide (busy.startAt < slot.startAt + slot.durationMinutes * 60000)

structure HiddenSlotSummary where
  slotId : RowId
  startAt : Nat
  endAt : Nat
  durationMinutes : Nat
  conflictCount : Nat
  firstConflictExternalCalendarId : Option String
  firstConflictExternalEventId : Option String
  deriving DecidableEq

def DEFAULT_WINDOW_DAYS : Int := 30

def clampWindowDays (windowDays : Option Int) : Int :=
  max 1 (min (windowDays.getD DEFAULT_WINDOW_DAYS) 60)

/-- The row of a group.  Of intervals that begin together the first of the cache is taken, where
the database may take any. -/
def summaryOf (slot : LessonSlot) (conflicts : List BusyRow) : HiddenSlotSummary :=
  let first := (conflicts.insertionSort fun busy other => busy.startAt ≤ other.startAt).head?
  { slotId := slot.id
    startAt := wholeSeconds slot.startAt
    endAt := wholeSeconds slot.endAt
    durationMinutes := slot.durationMinutes
    conflictCount := conflicts.length
    firstConflictExternalCalendarId := first.map (·.externalCalendarId)
    firstConflictExternalEventId := first.map (·.externalEventId) }

def listHiddenSlotsForTeacher (snapshot : Snapshot) (teacherAccountId : RowId)
    (windowDays : Option Int) : List HiddenSlotSummary :=
  let matches_ := overlapping snapshot teacherAccountId (clampWindowDays windowDays)
  ((groups matches_ snapshot.slots snapshot.cache).insertionSort fun slot other =>
    slot.startAt ≤ other.startAt).map fun slot =>
      summaryOf slot (group matches_ snapshot.slots snapshot.cache slot)

def countHiddenSlotsForTeacher (snapshot : Snapshot) (teacherAccountId : RowId) : Nat :=
  ((joined (overlapping snapshot teacherAccountId 30) snapshot.slots snapshot.cache).map
    fun pair => pair.1.id).dedup.length

/-! ## What is hidden is refused -/

/-- The constraints of the tables: the primary key and the times of the slots, and the order of
the ends of an interval. -/
structure Constraints (snapshot : Snapshot) : Prop where
  unique : Unique LessonSlot.id snapshot.slots
  checks : ∀ slot, slot ∈ snapshot.slots -> slot.checks = true
  ordered : ∀ busy, busy ∈ snapshot.cache -> busy.startAt < busy.endAt

/-- The listing has each refused slot of its window once, with all that it runs into. -/
structure HiddenExactly (snapshot : Snapshot) (teacherAccountId : RowId) (days : Int)
    (summaries : List HiddenSlotSummary) : Prop where
  once : (summaries.map HiddenSlotSummary.slotId).Nodup
  counted : ∀ summary, summary ∈ summaries -> ∃ slot, slot ∈ snapshot.slots ∧
    slot.id = summary.slotId ∧
      summary.conflictCount = (snapshot.cache.filter
        (blocks slot.teacherAccountId slot.startAt slot.durationMinutes)).length
  refused : ∀ slot, slot ∈ snapshot.slots -> ∀ input : BookingAttempt,
    input.slotId = slot.id -> slot.teacherAccountId ≠ input.learnerAccountId ->
    input.expectedTeacherId.all (fun expected => decide (slot.teacherAccountId = expected)) =
      true ->
    ((∃ summary, summary ∈ summaries ∧ summary.slotId = slot.id) <->
      inWindow snapshot teacherAccountId days slot = true ∧
        refusal snapshot input = some "external_conflict")

section Exactness

variable {snapshot : Snapshot} {teacherAccountId : RowId} {days : Int} {slot : LessonSlot}

theorem durationMinutes_pos (checks : slot.checks = true) : 0 < slot.durationMinutes := by
  simp only [LessonSlot.checks, LessonSlot.durationBand, Bool.and_eq_true, decide_eq_true_eq]
    at checks
  omega

theorem wholeSeconds_startAt (checks : slot.checks = true) :
    wholeSeconds slot.startAt = slot.startAt := by
  simp only [LessonSlot.checks, LessonSlot.startSecondsZero, Bool.and_eq_true] at checks
  have minute := of_decide_eq_true checks.2
  simp only [mskTime, mskDay] at minute
  rw [wholeSeconds]
  omega

theorem overlapping_eq (checks : slot.checks = true) {busy : BusyRow}
    (ordered : busy.startAt < busy.endAt) : overlapping snapshot teacherAccountId days slot busy =
      (activeIntegration snapshot slot.teacherAccountId &&
        inWindow snapshot teacherAccountId days slot &&
          blocks slot.teacherAccountId slot.startAt slot.durationMinutes busy) := by
  have positive := durationMinutes_pos checks
  have ranges : rangesOverlap busy.startAt busy.endAt slot.startAt
      (slot.startAt + slot.durationMinutes * 60000) =
      (decide (slot.startAt < busy.endAt) &&
        decide (busy.startAt < slot.startAt + slot.durationMinutes * 60000)) := by
    rw [Bool.eq_iff_iff]
    simp only [rangesOverlap, Bool.and_eq_true, decide_eq_true_eq]
    omega
  rw [overlapping, blocks, ranges]
  simp only [Bool.and_assoc, Bool.and_left_comm, Bool.and_comm]

theorem busyOverlap_iff {startAt durationMinutes : Nat} :
    busyOverlap snapshot teacherAccountId startAt durationMinutes = true <->
      activeIntegration snapshot teacherAccountId = true ∧ ∃ busy, busy ∈ snapshot.cache ∧
          blocks teacherAccountId startAt durationMinutes busy = true := by
  simp only [busyOverlap, List.any_eq_true, Bool.and_eq_true]
  constructor
  · rintro ⟨busy, member, active, hit⟩
    have own : busy.teacherAccountId = teacherAccountId := by
      simp only [blocks, Bool.and_eq_true, decide_eq_true_eq] at hit
      exact hit.1.1
    exact ⟨own ▸ active, busy, member, hit⟩
  · rintro ⟨active, busy, member, hit⟩
    have own : busy.teacherAccountId = teacherAccountId := by
      simp only [blocks, Bool.and_eq_true, decide_eq_true_eq] at hit
      exact hit.1.1
    exact ⟨busy, member, own.symm ▸ active, hit⟩

theorem mem_hidden_iff (constraints : Constraints snapshot) (member : slot ∈ snapshot.slots) :
    slot ∈ groups (overlapping snapshot teacherAccountId days) snapshot.slots snapshot.cache <->
      inWindow snapshot teacherAccountId days slot = true ∧
        busyOverlap snapshot slot.teacherAccountId slot.startAt slot.durationMinutes = true := by
  have checks := constraints.checks slot member
  rw [mem_groups, busyOverlap_iff]
  constructor
  · rintro ⟨_, busy, cached, matched⟩
    rw [overlapping_eq checks (constraints.ordered busy cached)] at matched
    simp only [Bool.and_eq_true] at matched
    exact ⟨matched.1.2, matched.1.1, busy, cached, matched.2⟩
  · rintro ⟨within, active, busy, cached, hit⟩
    refine ⟨member, busy, cached, ?_⟩
    rw [overlapping_eq checks (constraints.ordered busy cached), within, active, hit]
    rfl

theorem refusal_eq_conflict_iff (constraints : Constraints snapshot)
    (member : slot ∈ snapshot.slots) {input : BookingAttempt} (this : input.slotId = slot.id)
    (other : slot.teacherAccountId ≠ input.learnerAccountId) (expected : input.expectedTeacherId.all
      (fun expected => decide (slot.teacherAccountId = expected)) = true)
    (open_ : slot.status = .open) (future : snapshot.now < slot.startAt) :
    refusal snapshot input = some "external_conflict" <->
      busyOverlap snapshot slot.teacherAccountId slot.startAt slot.durationMinutes = true := by
  have found : get LessonSlot.id snapshot.slots input.slotId = some slot := by
    rw [this]
    exact get_of_mem constraints.unique member
  have matching : (input.expectedTeacherId.any fun expected =>
      decide (slot.teacherAccountId ≠ expected)) = false := by
    cases named : input.expectedTeacherId with
    | none => rfl
    | some teacher =>
      rw [named, Option.all_some] at expected
      rw [Option.any_some]
      exact decide_eq_false (not_not.mpr (of_decide_eq_true expected))
  have classified : classifyBookSlotFailure snapshot input =
      if busyOverlap snapshot slot.teacherAccountId slot.startAt slot.durationMinutes = true then
        "external_conflict"
      else "not_open" := by
    rw [classifyBookSlotFailure, found]
    simp only [matching, Bool.false_eq_true, if_false, other,
      wholeSeconds_startAt (constraints.checks slot member), Nat.not_le.mpr future, open_,
      true_and]
  have bookable_ : bookable snapshot input slot =
      !busyOverlap snapshot slot.teacherAccountId slot.startAt slot.durationMinutes := by
    rw [bookable, expected, open_, decide_eq_true future, decide_eq_true other]
    rfl
  rw [refusal, found, Option.any_some, bookable_, classified]
  cases busyOverlap snapshot slot.teacherAccountId slot.startAt slot.durationMinutes with
  | true => simp
  | false => simp

theorem startsOpen_of_inWindow (within : inWindow snapshot teacherAccountId days slot = true) :
    slot.status = .open ∧ snapshot.now < slot.startAt := by
  simp only [inWindow, Bool.and_eq_true, decide_eq_true_eq] at within
  exact ⟨within.1.1.2, within.1.2⟩

theorem id_injective (constraints : Constraints snapshot) {first second : LessonSlot}
    (member : first ∈ snapshot.slots) (also : second ∈ snapshot.slots)
    (same : first.id = second.id) : first = second :=
  List.inj_on_of_nodup_map constraints.unique member also same

theorem mem_slots_of_mem_groups
    (listed : slot ∈ groups (overlapping snapshot teacherAccountId days) snapshot.slots
      snapshot.cache) : slot ∈ snapshot.slots :=
  (mem_groups.mp listed).1

end Exactness

/-- The listing of hidden slots is exact, and the count is its length for the default window. -/
theorem hiddenSlots_exact {snapshot : Snapshot} (constraints : Constraints snapshot)
    (teacherAccountId : RowId) (windowDays : Option Int) :
    HiddenExactly snapshot teacherAccountId (clampWindowDays windowDays)
        (listHiddenSlotsForTeacher snapshot teacherAccountId windowDays) ∧
      countHiddenSlotsForTeacher snapshot teacherAccountId =
        (listHiddenSlotsForTeacher snapshot teacherAccountId none).length := by
  have listed : ∀ summary,
      summary ∈ listHiddenSlotsForTeacher snapshot teacherAccountId windowDays <->
        ∃ slot, slot ∈ groups (overlapping snapshot teacherAccountId
            (clampWindowDays windowDays)) snapshot.slots snapshot.cache ∧
          summaryOf slot (group (overlapping snapshot teacherAccountId
            (clampWindowDays windowDays)) snapshot.slots snapshot.cache slot) = summary := by
    intro summary
    simp only [listHiddenSlotsForTeacher, List.mem_map, List.mem_insertionSort]
  refine ⟨⟨?_, ?_, ?_⟩, ?_⟩
  · have ids : (listHiddenSlotsForTeacher snapshot teacherAccountId windowDays).map
        HiddenSlotSummary.slotId =
        ((groups (overlapping snapshot teacherAccountId (clampWindowDays windowDays))
          snapshot.slots snapshot.cache).insertionSort fun slot other =>
            slot.startAt ≤ other.startAt).map LessonSlot.id := by
      rw [listHiddenSlotsForTeacher, List.map_map]
      rfl
    rw [ids]
    refine List.Nodup.map_on (fun first member second also same => ?_)
      ((List.perm_insertionSort _ _).nodup_iff.mpr (List.nodup_dedup _))
    exact id_injective constraints
      (mem_slots_of_mem_groups ((List.mem_insertionSort _).mp member))
      (mem_slots_of_mem_groups ((List.mem_insertionSort _).mp also)) same
  · intro summary member
    obtain ⟨slot, grouped, rfl⟩ := (listed summary).mp member
    have present := mem_slots_of_mem_groups grouped
    have ⟨within, busy⟩ := (mem_hidden_iff constraints present).mp grouped
    have ⟨active, _⟩ := busyOverlap_iff.mp busy
    refine ⟨slot, present, rfl, ?_⟩
    change (group _ _ _ slot).length = _
    rw [group_eq constraints.unique.of_map present]
    refine congrArg List.length (List.filter_congr fun busy cached => ?_)
    rw [overlapping_eq (constraints.checks slot present) (constraints.ordered busy cached), active,
      within]
    rfl
  · intro slot member input this other expected
    have grouped : (∃ summary,
        summary ∈ listHiddenSlotsForTeacher snapshot teacherAccountId windowDays ∧
          summary.slotId = slot.id) <->
        slot ∈ groups (overlapping snapshot teacherAccountId (clampWindowDays windowDays))
          snapshot.slots snapshot.cache := by
      constructor
      · rintro ⟨summary, inList, same⟩
        obtain ⟨found, there, rfl⟩ := (listed summary).mp inList
        rwa [← id_injective constraints (mem_slots_of_mem_groups there) member same]
      · intro there
        exact ⟨_, (listed _).mpr ⟨slot, there, rfl⟩, rfl⟩
    rw [grouped, mem_hidden_iff constraints member]
    refine and_congr_right fun within => ?_
    have ⟨open_, future⟩ := startsOpen_of_inWindow within
    exact (refusal_eq_conflict_iff constraints member this other expected open_ future).symm
  · rw [countHiddenSlotsForTeacher, listHiddenSlotsForTeacher, List.length_map,
      List.length_insertionSort, groups]
    have default_ : clampWindowDays none = 30 := rfl
    rw [default_, ← @length_dedup_map _ _ _ _ LessonSlot.id, List.map_map]
    · rfl
    · intro first member second also same
      obtain ⟨⟨_, _⟩, inJoin, rfl⟩ := List.mem_map.mp member
      obtain ⟨⟨_, _⟩, alsoInJoin, rfl⟩ := List.mem_map.mp also
      refine id_injective constraints ?_ ?_ same
      · exact (mem_groups.mp (List.mem_dedup.mpr member)).1
      · exact (mem_groups.mp (List.mem_dedup.mpr also)).1

/-- A lesson at noon, in Moscow. -/
def middaySlot : LessonSlot :=
  { id := .seeded 1
    teacherAccountId := .seeded 2
    startAt := 1767603600000
    durationMinutes := 60
    status := .open
    isPersonalEvent := false
    learnerAccountId := none
    tariffId := none
    snapshotAmountKopecks := none
    cancelledAt := none
    cancelledByAccountId := none
    cancellationReason := none
    markedAt := none
    updatedAt := 0 }

/-- The teacher is busy during the second half of the lesson, and right after it. -/
def busyMidday : Snapshot where
  now := 1767600000000
  session := Zone.universal
  slots := [middaySlot]
  cache := [⟨.seeded 2, "work", "a", 1767605400000, 1767607200000, false, false⟩,
    ⟨.seeded 2, "work", "b", 1767607200000, 1767609000000, false, false⟩]
  integration _ := some ⟨.active, some 1767599900000⟩

theorem hiddenSlots_exact_midday : HiddenExactly busyMidday (.seeded 2) (clampWindowDays none)
        (listHiddenSlotsForTeacher busyMidday (.seeded 2) none) ∧
      countHiddenSlotsForTeacher busyMidday (.seeded 2) =
        (listHiddenSlotsForTeacher busyMidday (.seeded 2) none).length := by
  have constraints : Constraints busyMidday :=
    { unique := List.nodup_singleton _
      checks := by decide
      ordered := by decide }
  exact hiddenSlots_exact constraints (.seeded 2) none

end HiddenSlots

end LevelChannel
