import LevelChannel.Pricing.WriteCaps
import LevelChannel.ReadCommitted.Lifting
import LevelChannel.Scheduling.Overlaps

namespace LevelChannel

open Tables ReadCommitted

/-!
# Slots and their tariffs

A slot that refers to a tariff has the tariff's duration and belongs to the tariff's teacher,
and from then on the tariff keeps its price and its duration.  The writers of slots look at
the tariff before they insert, the writers of tariffs look at the slots, and two triggers on
tariffs look again.

Both sides look at what is committed.  A slot that is inserted between the trigger and the
commit of an update finds the tariff as it was, and the tariff changes behind it.  And the
edit of an open slot writes a new duration without a look at the tariff at all.

The routes of lessons and slots are taken as they are, on a database whose tariffs are rows
with locks and not only something that is looked up.
-/

/-- The body of an edit: what is there of it, a start as the date parser makes it. -/
structure SlotPatch where
  startAt : Option (Option Nat)
  durationMinutes : Option JsonNumber
  notes : Option String

namespace Program

def editedRow (patch : SlotPatch) (now : Nat) (row : LessonSlot) : LessonSlot :=
  { row with
    startAt := (patch.startAt.bind id).getD row.startAt
    durationMinutes := match patch.durationMinutes with
      | some (.integer minutes) => minutes.toNat
      | _ => row.durationMinutes
    updatedAt := now }

def probeEdit (slotId : RowId) : Program :=
  query thrown fun committed _ =>
    if (committed.slot? slotId).isSome then notOk "not_open" else notOk "not_found"

def editOpenSlot (slotId : RowId) (patch : SlotPatch) : Program :=
  dateNow thrown fun nowMs =>
    match validateSlotInput nowMs ⟨patch.startAt, patch.durationMinutes, patch.notes⟩ with
    | some (field, reason) => .done (.thrown ("slot/" ++ field ++ "/" ++ reason))
    | none =>
      begin thrown fun now =>
        let update (own : Db) :=
          own.slotUpdate slotId (fun row => row.status = .open) (editedRow patch now)
        query thrown fun _ own =>
          match update own with
          | none => probeEdit slotId
          | some (_, new) =>
            checkedOr
              [(LockTarget.slot slotId).forNoKeyUpdate,
                (LockTarget.slotStart new.teacherAccountId new.startAt).forUpdate]
              thrown (fun code => .done (.thrown code))
              (fun own => (update own).bind fun versions =>
                if versions.2.checks = false then some "23514"
                else if own.slots.any (fun other => other.id ≠ slotId &&
                    other.status ≠ .cancelled &&
                    other.teacherAccountId = versions.2.teacherAccountId &&
                    other.startAt = versions.2.startAt) then some "23505"
                else none)
              (fun own => slotUpdateWrites (update own))
              fun own =>
                if (update own).isSome then .commit thrown (.done (.returned "slot" [slotId]))
                else .commit thrown (probeEdit slotId)

end Program

namespace TariffFreeze

inductive Write where
  | lesson (write : LevelChannel.Write)
  | tariff (id : RowId) (row : PricingTariff)

/-- Locks as before, and those on the rows of tariffs.  The foreign-key check of a slot does
not wait for an update of a tariff that leaves its key. -/
inductive Lock where
  | lesson (lock : LevelChannel.Lock)
  | tariff (id : RowId)

def Lock.conflict : Lock -> Lock -> Bool
  | .lesson first, .lesson second => first.conflict second
  | .tariff first, .tariff second => first = second
  | _, _ => false

theorem Lock.conflict_comm (first second : Lock) : first.conflict second = second.conflict first := by
  cases first with
  | lesson one =>
    cases second with
    | lesson two => exact LevelChannel.Lock.conflict_comm one two
    | tariff id => rfl
  | tariff one =>
    cases second with
    | lesson lock => rfl
    | tariff two => simp only [Lock.conflict, eq_comm]

/-- `insert into pricing_tariffs` or `update pricing_tariffs`, for one row. -/
def setTariff (db : Db) (id : RowId) (row : PricingTariff) : Db :=
  { db with catalog := { db.catalog with
      tariff := Function.update db.catalog.tariff id (some row) } }

/-- Whatever else is looked up may change by itself, but tariffs do not, and a slot that comes
from outside has none. -/
def drift : Drift -> Db -> Db
  | .catalog catalog, db => { db with catalog := { catalog with tariff := db.catalog.tariff } }
  | .slot row, db => if row.tariffId.isNone then db.drift (.slot row) else db
  | change, db => db.drift change

def store : ReadCommitted.Store Db Lock Write Drift where
  apply db write :=
    match write with
    | .lesson write => db.apply write
    | .tariff id row => setTariff db id row
  drift := drift
  close := LevelChannel.store.close
  conflict := Lock.conflict
  conflict_comm := Lock.conflict_comm

abbrev TariffProgram := ReadCommitted.Program Db Lock Write Label GatewayAnswer Reply

abbrev State := ReadCommitted.State Db Lock Write Label GatewayAnswer Reply

/-! ## The writers of tariffs -/

/-- The body of a change, or of a new tariff; the slug and the texts are checked and
belong to columns that nothing here reads. -/
structure TariffPatch where
  slug : Option String
  titleRu : Option String
  descriptionRu : Option String
  amountKopecks : Option JsonNumber
  durationMinutes : Option JsonNumber
  isActive : Option Bool

/-- A number within bounds, for `validateTariffInput`. -/
def checkNumber (field : String) (least most : Int) : Option JsonNumber -> Option (String × String)
  | none => none
  | some .fractional => some (field, "not_integer")
  | some (.integer value) =>
    if value < least || most < value then some (field, "out_of_band") else none

/-- `validateTariffInput`, the field and the reason. -/
def validateTariffInput (input : TariffPatch) : Option (String × String) :=
  if input.slug.any fun slug => !WriteCaps.slugFormat slug then some ("slug", "invalid_format")
  else if input.titleRu.any fun title => jsLength (jsTrim title) = 0 then
    some ("titleRu", "too_short")
  else if input.titleRu.any fun title => 120 < jsLength (jsTrim title) then
    some ("titleRu", "too_long")
  else if input.descriptionRu.any fun text => 600 < jsLength text then
    some ("descriptionRu", "too_long")
  else
    (checkNumber "amountKopecks" 100 100000000 input.amountKopecks).or
      (checkNumber "durationMinutes" 15 240 input.durationMinutes)

def numberOr (field : Option JsonNumber) (current : Nat) : Nat :=
  match field with
  | some (.integer value) => value.toNat
  | _ => current

def TariffPatch.set (patch : TariffPatch) (row : PricingTariff) : PricingTariff :=
  { row with
    amountKopecks := numberOr patch.amountKopecks row.amountKopecks
    durationMinutes := numberOr patch.durationMinutes row.durationMinutes
    isActive := patch.isActive.getD row.isActive }

def referenced (db : Db) (id : RowId) : Bool :=
  db.slots.any fun slot => slot.tariffId = some id

namespace TariffProgram

def thrown : TariffProgram :=
  .done (.thrown driverError)

def query (next : Db -> TariffProgram) : TariffProgram :=
  .statement .plain [] thrown (fun _ _ => []) fun committed _ => next committed

/-- The guard of one field: when a slot refers to the tariff, the field keeps its value. -/
def whileUnreferenced (id : RowId) (field : Option JsonNumber) (name : String)
    (current : PricingTariff -> Nat) (next : TariffProgram) : TariffProgram :=
  if field.isNone then next
  else
    query fun committed =>
      if referenced committed id then
        query fun committed =>
          if (committed.catalog.tariff id).any fun row =>
              numberOr field (current row) ≠ current row then
            .done (.thrown s!"tariff validation failed: {name}/immutable_after_first_slot_reference")
          else next
      else next

/-- `pricing_tariffs_amount_guard` and `pricing_tariffs_duration_guard` -/
def frozenRejects (own : Db) (id : RowId) (old new : PricingTariff) : Bool :=
  (new.amountKopecks ≠ old.amountKopecks || new.durationMinutes ≠ old.durationMinutes) &&
    referenced own id

/-- `update pricing_tariffs set .. where id = $1 and ..`, with its triggers, and its commit. -/
def writeTariff (id : RowId) (where_ : PricingTariff -> Bool)
    (set_ : PricingTariff -> PricingTariff) : TariffProgram :=
  let old (own : Db) := (own.catalog.tariff id).filter where_
  .statement .plain [.tariff id] thrown
    (fun _ own =>
      match old own with
      | none => []
      | some row =>
        if frozenRejects own id row (set_ row) then [] else [.tariff id (set_ row)])
    fun _ own =>
      match old own with
      | none => .commit thrown (.done (.returned "null" []))
      | some row =>
        if frozenRejects own id row (set_ row) then .rollback (.done (.thrown "check_violation"))
        else .commit thrown (.done (.returned "tariff" [id]))

/-- What both updates do once the tariff may be changed by whoever asks. -/
def guardedUpdate (id : RowId) (patch : TariffPatch) (where_ : PricingTariff -> Bool) :
    TariffProgram :=
  whileUnreferenced id patch.amountKopecks "amountKopecks" PricingTariff.amountKopecks
    (whileUnreferenced id patch.durationMinutes "durationMinutes" PricingTariff.durationMinutes
      (writeTariff id where_ patch.set))

/-- `throw new Error('tariff validation failed: ..')` -/
def invalid (failed : String × String) : TariffProgram :=
  .done (.thrown s!"tariff validation failed: {failed.1}/{failed.2}")

def updateTariff (id : RowId) (patch : TariffPatch) : TariffProgram :=
  match validateTariffInput patch with
  | some failed => invalid failed
  | none => guardedUpdate id patch fun _ => true

def ownedBy (teacherId : RowId) (row : PricingTariff) : Bool :=
  row.teacherId = some teacherId && !row.isDeleted

def updateTariffForTeacher (id teacherId : RowId) (patch : TariffPatch) : TariffProgram :=
  match validateTariffInput patch with
  | some failed => invalid failed
  | none =>
    query fun committed =>
      if (committed.catalog.tariff id).any (ownedBy teacherId) then
        guardedUpdate id patch (ownedBy teacherId)
      else .done (.returned "null" [])

/-- `createTariffForTeacher`, and `createTariff` behind it.  A slug that is taken is one more
way for the insert to fail. -/
def createTariffForTeacher (session : Nat) (teacherId : RowId) (input : TariffPatch) :
    TariffProgram :=
  match validateTariffInput input with
  | some failed => invalid failed
  | none =>
    match input.durationMinutes, input.amountKopecks with
    | some (.integer durationMinutes), some (.integer amountKopecks) =>
      .statement .plain [.tariff (.minted session 0)] thrown
        (fun _ own =>
          if (own.catalog.tariff (.minted session 0)).isSome then []
          else
            [.tariff (.minted session 0)
              { teacherId := some teacherId
                durationMinutes := durationMinutes.toNat
                amountKopecks := amountKopecks.toNat
                isActive := input.isActive.getD true
                isDeleted := false
                isPrivate := false }])
        fun _ own =>
          if (own.catalog.tariff (.minted session 0)).isSome then .rollback thrown
          else .commit thrown (.done (.returned "tariff" [.minted session 0]))
    | none, _ => .done (.thrown "tariff validation failed: durationMinutes/required_integer")
    | some .fractional, _ =>
      .done (.thrown "tariff validation failed: durationMinutes/required_integer")
    -- `amount_kopecks` is `not null`
    | _, _ => thrown

def softDeleteTariffForTeacher (id teacherId : RowId) : TariffProgram :=
  writeTariff id (ownedBy teacherId) fun row => { row with isActive := false, isDeleted := true }

def lesson (program : Program) : TariffProgram :=
  (program.renamed id Lock.lesson).within id Write.lesson

end TariffProgram

inductive Action where
  | slot (action : Scheduling.SlotAction)
  | editOpenSlot (slotId : RowId) (patch : SlotPatch)
  | createTariffForTeacher (teacherId : RowId) (input : TariffPatch)
  | updateTariff (id : RowId) (patch : TariffPatch)
  | updateTariffForTeacher (id teacherId : RowId) (patch : TariffPatch)
  | softDeleteTariffForTeacher (id teacherId : RowId)

def Action.program (isTeacher : RowId -> Bool) (session : Nat) : Action -> TariffProgram
  | .slot action => .lesson (action.program isTeacher session)
  | .editOpenSlot slotId patch => .lesson (.editOpenSlot slotId patch)
  | .createTariffForTeacher teacherId input => .createTariffForTeacher session teacherId input
  | .updateTariff id patch => .updateTariff id patch
  | .updateTariffForTeacher id teacherId patch => .updateTariffForTeacher id teacherId patch
  | .softDeleteTariffForTeacher id teacherId => .softDeleteTariffForTeacher id teacherId

def opening (isTeacher : RowId -> Bool) (db : Db) (actions : Nat -> Action) : State :=
  State.start db fun session => (actions session).program isTeacher session

end TariffFreeze
end LevelChannel
