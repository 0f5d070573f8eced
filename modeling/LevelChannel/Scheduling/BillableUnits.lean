import LevelChannel.ReadCommitted.Guards
import LevelChannel.Scheduling.Runs
import LevelChannel.Scheduling.UnitRoutes

namespace LevelChannel.Scheduling
namespace HeldUnits

open ReadCommitted Tables

/-!
# Units of lessons that are not billed

A lesson the teacher did not come to is not billed.  Both ways to mark one, at the end of
the lesson and by a change of its mark, write the status and leave the unit where it is,
while every way to cancel gives it back.  So as long as no lesson that holds a unit is
marked in this way, a unit is held by a billable lesson only; and the first commit that
does so leaves one that is not.
-/

variable {takes : Nat -> Prop} {session : Nat} {held : List Lock} {db : Db}

/-- The requests that move a lesson: booking, direct assignment, both moves, all ways to
cancel, marking, and changing or taking back the mark. -/
def MovesLesson : Request -> Prop
  | .bookSlot _ => True
  | .assignSlotDirect _ => True
  | .rescheduleSlotByLearner _ _ _ _ => True
  | .rescheduleSlotByTeacher _ _ _ _ => True
  | .cancelSlot _ _ _ _ => True
  | .cancelLearnerSlot _ _ _ _ => True
  | .cancelSlotByTeacher _ _ _ => True
  | .transitionPersonalEvent _ _ _ => True
  | .markSlotLifecycle _ _ _ => True
  | .markSlotByTeacher _ _ _ => True
  | .changeLessonStatus _ _ _ _ => True
  | .uncomplete _ _ => True
  | _ => False

def TakesUnit : Request -> Prop
  | .bookSlot _ => True
  | .assignSlotDirect _ => True
  | .rescheduleSlotByLearner _ _ _ _ => True
  | .rescheduleSlotByTeacher _ _ _ _ => True
  | _ => False

-- unification would otherwise start to trim the reason
attribute [local irreducible] Program.rescheduleSlotByTeacher in
theorem request_safe {permits : Label -> Db -> Prop} (request : Request)
    (moves : MovesLesson request) (role : takes session <-> TakesUnit request) (units : Held db) :
    (contract takes).Safe store permits session (request.program session) [] [] db := by
  cases request with
  | bookSlot input => exact bookSlot_safe (role.mpr trivial) input units
  | assignSlotDirect input => exact assignSlotDirect_safe (role.mpr trivial) input units
  | rescheduleSlotByLearner slotId learnerAccountId newStartAt cancelWindowHours =>
    exact rescheduleSlotByLearner_safe (role.mpr trivial) slotId learnerAccountId newStartAt
      cancelWindowHours units
  | rescheduleSlotByTeacher slotId teacherAccountId newStartAt reason =>
    exact rescheduleSlotByTeacher_safe (role.mpr trivial) slotId teacherAccountId newStartAt
      reason units
  | cancelSlot slotId cancelledByAccountId reason actor =>
    exact cancelSlot_safe slotId cancelledByAccountId reason actor units
  | cancelLearnerSlot slotId learnerAccountId reason envFallbackMinutes =>
    exact cancelLearnerSlot_safe slotId learnerAccountId reason envFallbackMinutes units
  | cancelSlotByTeacher slotId teacherAccountId reason =>
    exact cancelSlotByTeacher_safe slotId teacherAccountId reason units
  | transitionPersonalEvent slotId teacherAccountId cancellationReason =>
    exact transitionPersonalEvent_safe slotId teacherAccountId cancellationReason units
  | markSlotLifecycle slotId status actorAccountId =>
    exact safe_afresh (markSlotLifecycleThen_obeys role.mp fun _ => trivial) units
  | markSlotByTeacher slotId teacherAccountId status =>
    exact safe_afresh (markSlotByTeacher_obeys role.mp slotId teacherAccountId status) units
  | changeLessonStatus slotId teacherAccountId toStatus expectedUpdatedAt =>
    exact changeLessonStatus_safe role.mp slotId teacherAccountId toStatus expectedUpdatedAt units
  | uncomplete teacherAccountId completionId =>
    exact uncomplete_safe role.mp teacherAccountId completionId units
  | _ => exact moves.elim

/-! ## The mark of an absent teacher -/

def marksAbsent : Write -> Option RowId
  | .slot (.insert row) => if row.status = .noShowTeacher then some row.id else none
  | .slot (.replace row) => if row.status = .noShowTeacher then some row.id else none
  | _ => none

def MarksUnheld (state : State) (event : Event) : Prop :=
  ∀ write, write ∈ state.applied event -> ∀ slotId, marksAbsent write = some slotId ->
    ¬ Holding state.db slotId

def Unmarked (db : Db) : Prop :=
  ∀ slotId slot, Holding db slotId -> db.slot? slotId = some slot ->
    slot.status ≠ .noShowTeacher

theorem marked_apply {write : Write} {slotId : RowId} {slot : LessonSlot}
    (read : (db.apply write).slot? slotId = some slot) (marked : slot.status = .noShowTeacher) :
    db.slot? slotId = some slot ∨ marksAbsent write = some slotId := by
  have written : slot.id = slotId -> (if slot.status = .noShowTeacher then some slot.id else none) =
      some slotId := by
    intro own
    rw [if_pos marked, own]
  by_cases elsewhere : write.table ≠ .slots
  · have same := @slots_applyAll [write]
      (fun _ member => List.mem_singleton.mp member ▸ elsewhere) db
    rw [Db.slot?, show (db.apply write).slots = db.slots from same] at read
    exact Or.inl read
  cases write with
  | slot change =>
    cases change with
    | insert row =>
      have inserted : (db.slot? slotId).or (if row.id = slotId then some row else none) =
          some slot := (get_insert row).symm.trans read
      cases old : db.slot? slotId with
      | some there =>
        rw [old, Option.some_or] at inserted
        exact Or.inl inserted
      | none =>
        rw [old, Option.none_or] at inserted
        by_cases own : row.id = slotId
        · rw [if_pos own] at inserted
          cases inserted
          exact Or.inr (written own)
        · rw [if_neg own] at inserted
          cases inserted
    | replace row =>
      have replaced : ((db.slot? slotId).map fun old => if row.id = slotId then row else old) =
          some slot := (get_replaced row).symm.trans read
      cases old : db.slot? slotId with
      | none =>
        rw [old] at replaced
        cases replaced
      | some there =>
        rw [old, Option.map_some] at replaced
        by_cases own : row.id = slotId
        · rw [if_pos own] at replaced
          cases replaced
          exact Or.inr (written own)
        · rw [if_neg own] at replaced
          exact Or.inl replaced
    | delete row =>
      by_cases own : slotId = row.id
      · have gone : (db.apply (.slot (.delete row))).slot? slotId = none :=
          own ▸ get_delete_self row
        rw [gone] at read
        cases read
      · exact Or.inl ((get_delete_of_ne row own).symm.trans read)
  | _ => exact absurd (by simp [Write.table]) elsewhere

theorem marked_applyAll {writes : List Write} {slotId : RowId} {slot : LessonSlot}
    (read : (store.applyAll db writes).slot? slotId = some slot)
    (marked : slot.status = .noShowTeacher) : db.slot? slotId = some slot ∨
      ∃ write, write ∈ writes ∧ marksAbsent write = some slotId := by
  induction writes generalizing db with
  | nil => exact Or.inl read
  | cons write writes extend =>
    rw [Store.applyAll_cons] at read
    rcases extend read with before | ⟨other, member, marks⟩
    · rcases marked_apply before marked with before | marks
      · exact Or.inl before
      · exact Or.inr ⟨write, List.mem_cons_self, marks⟩
    · exact Or.inr ⟨other, List.mem_cons_of_mem _ member, marks⟩

theorem unmarked_of_keeps {before : Db} {writes : List Write}
    (kept : Keeps takes session held before (store.applyAll before writes))
    (fine : ∀ write, write ∈ writes -> ∀ slotId, marksAbsent write = some slotId ->
      ¬ Holding before slotId)
    (unmarked : Unmarked before) : Unmarked (store.applyAll before writes) := by
  intro slotId slot holding read marked
  by_cases taking : takes session
  · rcases kept.absent taking slotId slot read marked with ⟨there, lapses⟩
    exact unmarked slotId slot (holding.of_lapses lapses) there marked
  · have held := holding.of_lapses (kept.idle taking slotId)
    rcases marked_applyAll read marked with there | ⟨write, member, marks⟩
    · exact unmarked slotId slot held there marked
    · exact fine write member slotId marks held

theorem unmarked_drift (units : Held db) (unmarked : Unmarked db) (change : Drift) :
    Unmarked (db.drift change) := by
  intro slotId slot holding read
  have same : (db.drift change).consumption? slotId = db.consumption? slotId := by
    rw [Db.consumption?, Db.consumption?, (drift_untouched change db).consumptions]
  have held := holding.of_lapses (Or.inl same)
  rcases units slotId id held with ⟨old, there, -⟩
  have still : (db.drift change).slot? slotId = some old := by
    cases change with
    | slot row =>
      simp only [Db.drift]
      split
      · exact get_insert_of_some row there
      · exact there
    | allocation row =>
      simp only [Db.drift, Db.allocate]
      split <;> exact there
    | _ => exact there
  rw [still] at read
  exact Option.some.inj read ▸ unmarked slotId old held there

theorem unmarked_step {permits : Label -> Db -> Prop} {state after : State} {event : Event}
    (sound : Contract.Sound (contract takes) store permits state)
    (allowed : Permitted permits state event) (fine : MarksUnheld state event)
    (stepped : ReadCommitted.step store state event = some after)
    (unmarked : Unmarked state.db) : Unmarked after.db := by
  have units : Held state.db := sound.good
  rcases applied_of_step stepped with made | ⟨_, closed⟩ | ⟨change, -, drifted⟩
  · rcases (sound.step (steady takes) event allowed stepped).2.2.2 with
      same | ⟨change, drifted⟩ | ⟨other, theirs, kept⟩
    · exact same ▸ unmarked
    · exact drifted ▸ unmarked_drift units unmarked change
    · rw [made] at kept ⊢
      exact unmarked_of_keeps kept fine unmarked
  · rw [closed]
    exact unmarked
  · exact drifted ▸ unmarked_drift units unmarked change

/-- A unit in use belongs to a lesson that is or will be billed, and a lesson that is
cancelled, or that the teacher did not come to, has none in use. -/
structure UnitsBillable (db : Db) : Prop where
  billable : ∀ row, row ∈ db.consumptions -> row.active = true ->
    ∃ slot, slot ∈ db.slots ∧ slot.id = row.slotId ∧
      (slot.status = .booked ∨ slot.status = .completed ∨ slot.status = .noShowLearner)
  released : ∀ slot, slot ∈ db.slots ->
    slot.status = .cancelled ∨ slot.status = .noShowTeacher ->
      ∀ row, row ∈ db.consumptions -> row.slotId = slot.id -> row.active = false

theorem unitsBillable_iff {terms : Terms} (good : Good terms db) :
    UnitsBillable db <-> Held db ∧ Unmarked db := by
  constructor
  · intro units
    have each : ∀ slotId, Holding db slotId -> ∃ slot, db.slot? slotId = some slot ∧
        (slot.status = .booked ∨ slot.status = .completed ∨ slot.status = .noShowLearner) := by
      rintro slotId ⟨row, read, active⟩
      rcases units.billable row (mem_of_get read) active with ⟨slot, listed, own, status⟩
      have key : row.slotId = slotId := key_of_get read
      exact ⟨slot, (own.trans key) ▸ get_of_mem good.inv.slotUnique listed, status⟩
    constructor
    · intro slotId _ holding
      rcases each slotId holding with ⟨slot, read, status⟩
      refine ⟨slot, read, ?_⟩
      rcases status with status | status | status <;> rw [status] <;> rfl
    · intro slotId slot holding read
      rcases each slotId holding with ⟨other, found, status⟩
      rw [Option.some.inj (read.symm.trans found)]
      rcases status with status | status | status <;> rw [status] <;> simp
  · rintro ⟨units, unmarked⟩
    have each : ∀ row, row ∈ db.consumptions -> row.active = true ->
        ∃ slot, db.slot? row.slotId = some slot ∧ slot.status.priced = true ∧
          slot.status ≠ .noShowTeacher := by
      intro row listed active
      have holding : Holding db row.slotId :=
        ⟨row, get_of_mem good.inv.consumptionUnique listed, active⟩
      rcases units row.slotId id holding with ⟨slot, read, priced⟩
      exact ⟨slot, read, priced, unmarked row.slotId slot holding read⟩
    constructor
    · intro row listed active
      rcases each row listed active with ⟨slot, read, priced, present⟩
      refine ⟨slot, mem_of_get read, key_of_get read, ?_⟩
      cases status : slot.status <;> simp_all [SlotStatus.priced]
    · intro slot listed status row placed own
      by_contra active
      rcases each row placed (by simpa using active) with ⟨other, read, priced, present⟩
      have there := get_of_mem good.inv.slotUnique listed
      rw [own] at read
      have same : other = slot := Option.some.inj (read.symm.trans there)
      rcases status with status | status
      · rw [same, status] at priced
        cases priced
      · exact present (same ▸ status)

/-- As long as no lesson that holds a unit is marked with an absent teacher, units are held
by billable lessons only, whatever the sessions do and in whatever order. -/
theorem units_billable {requests : Nat -> Request} {last : State} (start : Opening db)
    (units : UnitsBillable db) (lessons : ∀ session, MovesLesson (requests session))
    (reached : ReachesWhen store MarksUnheld (opening db requests) last) :
    UnitsBillable last.db := by
  have begun := (unitsBillable_iff start.good).mp units
  have sound : Contract.Sound (contract fun session => TakesUnit (requests session)) store
      (fun _ _ => True) (opening db requests) :=
    Contract.Sound.start begun.1 fun session =>
      request_safe (requests session) (lessons session) Iff.rfl begun.1
  have step : ∀ middle event after,
      Reaches store (fun _ _ => True) (opening db requests) middle -> Unmarked middle.db ->
        MarksUnheld middle event -> ReadCommitted.step store middle event = some after ->
          Unmarked after.db := by
    intro middle event after before kept fine stepped
    exact unmarked_step (sound.reaches (steady _) before).1 (permitted_always _ event) fine stepped
      kept
  have unmarked : Unmarked last.db := ReachesWhen.keeps step reached begun.2
  have good := good_of_reaches start.good (fun canonical => canonical.elim) reached.reaches
  exact (unitsBillable_iff good).mpr ⟨(sound.reaches (steady _) reached.reaches).1.good, unmarked⟩

instance (db : Db) (slotId : RowId) : Decidable (Holding db slotId) :=
  decidable_of_iff ((db.consumption? slotId).any PackageConsumption.active = true)
    (by simp [Holding, Option.any_eq_true])

/-- `MarksUnheld`, computed. -/
def marksUnheld (state : State) (event : Event) : Bool :=
  (state.applied event).all fun write =>
    (marksAbsent write).all fun slotId => decide (¬ Holding state.db slotId)

theorem marksUnheld_sound (state : State) (event : Event)
    (met : marksUnheld state event = true) : MarksUnheld state event := by
  intro write member slotId marks
  have free := List.all_eq_true.mp met write member
  rw [marks, Option.all_some] at free
  exact of_decide_eq_true free

theorem rosterDb_billable : UnitsBillable rosterDb where
  billable _ listed := absurd listed List.not_mem_nil
  released _ listed := absurd listed List.not_mem_nil

/-- A lesson is assigned and uses the package, and is marked when it is over. -/
def assignedAndMarked (status : SlotLifecycleStatus) : Nat -> Request
  | 0 => assignment 9 0
  | 1 => .markSlotByTeacher (.minted 0 0) (.seeded 1) status
  | _ => .uncomplete (.seeded 1) (.seeded 7)

theorem assignedAndMarked_moves (status : SlotLifecycleStatus) (session : Nat) :
    MovesLesson (assignedAndMarked status session) := by
  match session with
  | 0 => trivial
  | 1 => trivial
  | _ + 2 => trivial

def assignedAndMarkedEvents (count : Nat) : List Event :=
  turns 0 11 ++ [.drift (.tick 172800000)] ++ turns 1 count

/-- The learner does not come, and the unit is used up. -/
theorem units_billable_learner_absent : ∃ last, ReachesWhen store MarksUnheld
        (opening rosterDb (assignedAndMarked .noShowLearner)) last ∧
      last.db.slots.map LessonSlot.status = [.noShowLearner] ∧
      last.db.activeCount oneLesson.id = 1 ∧ UnitsBillable last.db := by
  rcases exists_of_playWhen store marksUnheld_sound (assignedAndMarkedEvents 9)
    (fun last => decide (last.db.slots.map LessonSlot.status = [.noShowLearner] ∧
      last.db.activeCount oneLesson.id = 1))
    (.refl (opening rosterDb (assignedAndMarked .noShowLearner))) (by decide +kernel) with
    ⟨last, reached, found⟩
  have facts := of_decide_eq_true found
  exact ⟨last, reached, facts.1, facts.2,
    units_billable rosterDb_opening rosterDb_billable (assignedAndMarked_moves _) reached⟩

/-- The teacher does not come, and the unit is used up as well. -/
theorem teacher_absent_unit_kept :
    ¬ ∀ (db : Db) (requests : Nat -> Request) (last : State), Opening db ->
      UnitsBillable db -> (∀ session, MovesLesson (requests session)) ->
      Reaches store (fun _ _ => True) (opening db requests) last -> UnitsBillable last.db := by
  intro claimed
  rcases exists_of_play store (opening rosterDb (assignedAndMarked .noShowTeacher))
    (assignedAndMarkedEvents 5)
    (fun db => db.slots.map LessonSlot.status = [.noShowTeacher] ∧
      db.consumptions.map PackageConsumption.active = [true]) (by decide +kernel) with
    ⟨last, reached, status, active⟩
  have units := claimed rosterDb (assignedAndMarked .noShowTeacher) last rosterDb_opening
    rosterDb_billable (assignedAndMarked_moves _) reached
  rcases List.map_eq_singleton_iff.mp active with ⟨row, rows, inUse⟩
  rcases List.map_eq_singleton_iff.mp status with ⟨slot, slots, absent⟩
  rcases units.billable row (rows ▸ List.mem_singleton_self row) inUse with
    ⟨other, listed, -, billed⟩
  rw [slots] at listed
  rw [List.mem_singleton.mp listed, absent] at billed
  simp at billed

end HeldUnits
end LevelChannel.Scheduling
