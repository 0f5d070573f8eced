import LevelChannel.Packages.Consumption

namespace LevelChannel

open Tables

/-!
# Slots

How an `update lesson_slots` reaches a row, with the trigger every such update runs
through.  The trigger freezes the price of a lesson when it is booked and refuses
every later change of that price.
-/

namespace Db

def slot? (db : Db) (id : RowId) : Option LessonSlot :=
  get LessonSlot.id db.slots id

def completion? (db : Db) (id : RowId) : Option LessonCompletion :=
  get LessonCompletion.id db.completions id

/-- The completion of a slot; `slot_id` is unique. -/
def completionOf? (db : Db) (slotId : RowId) : Option LessonCompletion :=
  get LessonCompletion.slotId db.completions slotId

end Db

/-- `status in ('booked', 'completed', 'no_show_learner', 'no_show_teacher')` -/
def SlotStatus.priced : SlotStatus -> Bool
  | .booked => true
  | .completed => true
  | .noShowLearner => true
  | .noShowTeacher => true
  | _ => false

/-- `lesson_slots_snapshot_on_book` fills a missing price from the tariff. -/
def LessonSlot.snapshotOnBook (catalog : Catalog) (row : LessonSlot) : LessonSlot :=
  if row.status.priced && row.snapshotAmountKopecks.isNone then
    { row with
      snapshotAmountKopecks := (row.tariffId.bind catalog.tariff).map PricingTariff.amountKopecks }
  else row

/-- `lesson_slots_snapshot_on_book` raises when a frozen price would change. -/
def LessonSlot.snapshotChanged (old new : LessonSlot) : Bool :=
  old.snapshotAmountKopecks.isSome && (old.status.priced || old.status = .cancelled) &&
    new.snapshotAmountKopecks ≠ old.snapshotAmountKopecks

def snapshotMessage : String :=
  "lesson_slots.snapshot_amount_kopecks is immutable once a booking exists"

@[simp] theorem LessonSlot.snapshotOnBook_id (catalog : Catalog) (row : LessonSlot) :
    (row.snapshotOnBook catalog).id = row.id := by
  rw [snapshotOnBook]
  split <;> rfl

@[simp] theorem LessonSlot.snapshotOnBook_status (catalog : Catalog) (row : LessonSlot) :
    (row.snapshotOnBook catalog).status = row.status := by
  rw [snapshotOnBook]
  split <;> rfl

@[simp] theorem LessonSlot.snapshotOnBook_isPersonalEvent (catalog : Catalog)
    (row : LessonSlot) :
    (row.snapshotOnBook catalog).isPersonalEvent = row.isPersonalEvent := by
  rw [snapshotOnBook]
  split <;> rfl

def Db.slotUpdate (db : Db) (slotId : RowId) (where_ : LessonSlot -> Bool)
    (set_ : LessonSlot -> LessonSlot) : Option (LessonSlot × LessonSlot) :=
  ((db.slot? slotId).filter where_).map fun old => (old, (set_ old).snapshotOnBook db.catalog)

def slotUpdateRejects (update : Option (LessonSlot × LessonSlot)) : Bool :=
  update.any fun versions => versions.1.snapshotChanged versions.2

def slotUpdateWrites (update : Option (LessonSlot × LessonSlot)) : List Write :=
  update.toList.map fun versions => .slot (.replace versions.2)

namespace Program

/-- `update lesson_slots set .. where id = $1 and .. returning ..`.  A row that does
not satisfy the condition in the statement's snapshot is passed over without waiting;
one that does is looked at again once it is locked. -/
def updateSlot (slotId : RowId) (where_ : Db -> LessonSlot -> Bool)
    (set_ : LessonSlot -> LessonSlot) (onError : Program)
    (next : Option LessonSlot -> Program) : Program :=
  let update (own : Db) := own.slotUpdate slotId (where_ own) set_
  query onError fun _ own =>
    match update own with
    | none => next none
    | some _ =>
      checked [(LockTarget.slot slotId).forNoKeyUpdate] onError
        (fun own => slotUpdateRejects (update own))
        (fun own => slotUpdateWrites (update own))
        fun own => next ((update own).map Prod.snd)

end Program

end LevelChannel
