import LevelChannel.Calendar.Integrations
import LevelChannel.Calendar.Jobs
import LevelChannel.Lessons.Timetable
import LevelChannel.ReadCommitted.Guards
import LevelChannel.ReadCommitted.Lifting
import LevelChannel.Scheduling.Runs

namespace LevelChannel

open Tables ReadCommitted

namespace Calendar
namespace Coverage

/-!
# Which routes tell the calendar

A lesson that is booked should appear in the teacher's calendar, and one that is cancelled
should go from it.  The transactions on slots know nothing of this.  The route that books a
slot enqueues a create push when its transaction is over, and the route on which a learner
cancels leaves an intent; what they enqueue lasts.  The other routes that book or cancel,
direct assignment, both reschedules, and the cancellations by a teacher or an operator, do
neither.

What a route has still to enqueue is lost when the route stops in between, or when its
statement fails, for it only logs that.
-/

/-! ## Lessons and their calendar -/

/-- The lesson tables, the integrations by teacher, `external_event_id` by slot, and the
queues. -/
structure CalendarDb where
  lessons : Db
  integration : RowId -> Option Integration
  external : RowId -> Option String
  queues : (name : QueueName) -> JobQueue name.JobKey

inductive Write where
  | lesson (write : LevelChannel.Write)
  | createPush (slotId teacherAccountId : RowId)
  | postCancelIntent (slotId : RowId)

/-- What no route does: the lessons' own drift, workers at their jobs, a slot bound to its
event or freed of it, and a teacher's integration. -/
inductive Drift where
  | lesson (change : LevelChannel.Drift)
  | claim (name : QueueName) (worker id : Nat)
  | finish (name : QueueName) (worker : Nat) (outcome : JobOutcome)
  | cancelPending (name : QueueName) (key : name.JobKey)
  | deletePush (slotId : RowId)
  | bind (slotId : RowId) (eventId : String)
  | unbind (slotId : RowId)
  | integration (teacherAccountId : RowId) (row : Option Integration)

inductive Label where
  | lesson (label : LevelChannel.Label)
  | readIntegration (slotId teacherAccountId : RowId)
  | enqueueCreate (slotId teacherAccountId : RowId)
  | insertIntent (slotId : RowId)

namespace CalendarDb

variable (db : CalendarDb)

def onRecord (name : QueueName) (key : name.JobKey) : Bool :=
  (db.queues name).jobs.any fun job => job.key = key

def setQueue (name : QueueName) (queue : JobQueue name.JobKey) : CalendarDb :=
  { db with queues := Function.update db.queues name queue }

/-- `enqueuePushJob` or `insertPostCancelIntent` -/
def enqueue (name : QueueName) (key : name.JobKey) : CalendarDb :=
  db.setQueue name ((db.queues name).enqueue name.rules db.lessons.clock key 0)

def work (name : QueueName) (event : QueueEvent name.JobKey) : CalendarDb :=
  match (db.queues name).step name.rules db.lessons.clock event with
  | none => db
  | some queue => db.setQueue name queue

def apply : Write -> CalendarDb
  | .lesson write => { db with lessons := db.lessons.apply write }
  | .createPush slotId _ => db.enqueue .push (slotId, .create)
  | .postCancelIntent slotId => db.enqueue .intent (slotId, .postCancelPush)

def drift : Drift -> CalendarDb
  | .lesson change => { db with lessons := db.lessons.drift change }
  | .claim name worker id => db.work name (.claim worker id)
  | .finish name worker outcome => db.work name (.finish worker outcome)
  | .cancelPending name key => db.work name (.cancelPending key)
  | .deletePush slotId => db.enqueue .push (slotId, .delete)
  | .bind slotId eventId =>
    if db.onRecord .push (slotId, .create) then
      { db with external := Function.update db.external slotId (some eventId) }
    else db
  | .unbind slotId => { db with external := Function.update db.external slotId none }
  | .integration teacherAccountId row =>
    { db with integration := Function.update db.integration teacherAccountId row }

end CalendarDb

def store : Store CalendarDb Lock Write Drift where
  apply := CalendarDb.apply
  drift change db := db.drift change
  close session db := { db with lessons := LevelChannel.store.close session db.lessons }
  conflict := Lock.conflict
  conflict_comm := Lock.conflict_comm

abbrev Program := ReadCommitted.Program CalendarDb Lock Write Label GatewayAnswer Reply

abbrev State := ReadCommitted.State CalendarDb Lock Write Label GatewayAnswer Reply

abbrev Event := ReadCommitted.Event Drift GatewayAnswer

/-! ## The routes -/

/-- `sync_state in ('active', 'degraded')` -/
def connected (row : Integration) : Bool :=
  row.syncState = .active || row.syncState = .degraded

/-- `write_calendar_id` is there, and not the empty text. -/
def writable (row : Integration) : Bool :=
  row.writeCalendarId.any fun calendar => calendar ≠ ""

namespace Program

/-- `enqueuePushJob` for a create push, `on conflict do nothing`. -/
def enqueuePushJob (slotId teacherAccountId : RowId) (next : Program) : Program :=
  .statement (.enqueueCreate slotId teacherAccountId) [] next
    (fun _ _ => [.createPush slotId teacherAccountId]) fun _ _ => .commit next next

/-- `enqueueCreatePushIfIntegrationActive`; what goes wrong is only logged. -/
def enqueueCreatePushIfIntegrationActive (slotId teacherAccountId : RowId) (next : Program) :
    Program :=
  .statement (.readIntegration slotId teacherAccountId) [] next (fun _ _ => [])
    fun committed _ =>
      if (committed.integration teacherAccountId).any fun row => connected row && writable row then
        enqueuePushJob slotId teacherAccountId next
      else next

/-- `insertPostCancelIntent`, `on conflict do nothing`; what goes wrong is only logged. -/
def insertPostCancelIntent (slotId : RowId) (next : Program) : Program :=
  .statement (.insertIntent slotId) [] next (fun _ _ => [.postCancelIntent slotId])
    fun _ _ => .commit next next

def lesson (program : LevelChannel.Program) : Program :=
  (program.renamed Label.lesson id).within CalendarDb.lessons Write.lesson

/-- What follows a booking, which has asserted that the slot is the expected teacher's. -/
def bookTail (teacherAccountId : RowId) : Reply -> Program
  | .returned code (slotId :: rest) =>
    enqueueCreatePushIfIntegrationActive slotId teacherAccountId
      (.done (.returned code (slotId :: rest)))
  | reply => .done reply

/-- `POST /api/slots/[id]/book` -/
def bookRoute (billingActive : Bool) (slotId learnerAccountId teacherAccountId : RowId) : Program :=
  (lesson (.bookSlot ⟨billingActive, slotId, learnerAccountId, .learner,
    some teacherAccountId⟩)).andThen (bookTail teacherAccountId)

def cancelTail (slotId : RowId) (reply : Reply) : Program :=
  if reply = .returned "ok" [] then insertPostCancelIntent slotId (.done reply)
  else .done reply

/-- `POST /api/slots/[id]/cancel` -/
def cancelRoute (slotId learnerAccountId : RowId) (reason : Option String)
    (envFallbackMinutes : Nat) : Program :=
  (lesson (.cancelLearnerSlot slotId learnerAccountId reason envFallbackMinutes)).andThen
    (cancelTail slotId)

end Program

inductive Request where
  | book (billingActive : Bool) (slotId learnerAccountId teacherAccountId : RowId)
  | cancel (slotId learnerAccountId : RowId) (reason : Option String) (envFallbackMinutes : Nat)
  | assignDirect (input : LevelChannel.Program.AssignSlotDirect)
  | rescheduleByLearner (slotId learnerAccountId : RowId) (newStartAt : Option Nat)
      (cancelWindowHours : Nat)
  | rescheduleByTeacher (slotId teacherAccountId : RowId) (newStartAt : Option Nat)
      (reason : Option String)
  | cancelByTeacher (slotId teacherAccountId : RowId) (reason : Option String)
  | cancelByAdmin (slotId operatorAccountId : RowId) (reason : Option String)

def Request.program (session : Nat) : Request -> Program
  | .book billingActive slotId learnerAccountId teacherAccountId =>
    .bookRoute billingActive slotId learnerAccountId teacherAccountId
  | .cancel slotId learnerAccountId reason envFallbackMinutes =>
    .cancelRoute slotId learnerAccountId reason envFallbackMinutes
  | .assignDirect input => .lesson (.assignSlotDirect session input)
  | .rescheduleByLearner slotId learnerAccountId newStartAt cancelWindowHours =>
    .lesson (.rescheduleSlotByLearner session slotId learnerAccountId newStartAt
      cancelWindowHours)
  | .rescheduleByTeacher slotId teacherAccountId newStartAt reason =>
    .lesson (.rescheduleSlotByTeacher session slotId teacherAccountId newStartAt reason)
  | .cancelByTeacher slotId teacherAccountId reason =>
    .lesson (.cancelSlotByTeacher slotId teacherAccountId reason)
  | .cancelByAdmin slotId operatorAccountId reason =>
    .lesson (.cancelSlot slotId operatorAccountId reason .admin)

def opening (db : CalendarDb) (requests : List Request) : State :=
  State.start db fun session => (requests[session]?).elim .crashed (Request.program session)

section Complete

variable (db : CalendarDb)

def Connected (teacherAccountId : RowId) : Prop :=
  (db.integration teacherAccountId).any connected = true

def DeleteOnRecord (slotId : RowId) : Prop :=
  db.onRecord .push (slotId, .delete) = true ∨
    db.onRecord .intent (slotId, .postCancelPush) = true

/-- Every booked lesson to come of a connected teacher is bound to an event or has a create
push on record, and every cancelled slot that is bound has a delete on record. -/
structure Complete : Prop where
  booked : ∀ slot, slot ∈ db.lessons.slots -> slot.status = .booked ->
    db.lessons.clock < slot.startAt -> Connected db slot.teacherAccountId ->
      (db.external slot.id).isSome ∨ db.onRecord .push (slot.id, .create) = true
  cancelled : ∀ slot, slot ∈ db.lessons.slots -> slot.status = .cancelled ->
    (db.external slot.id).isSome -> DeleteOnRecord db slot.id

instance (teacherAccountId : RowId) : Decidable (Connected db teacherAccountId) :=
  inferInstanceAs (Decidable (_ = true))

instance (slotId : RowId) : Decidable (DeleteOnRecord db slotId) :=
  inferInstanceAs (Decidable (_ ∨ _))

instance : Decidable (Complete db) :=
  decidable_of_iff
    ((∀ slot, slot ∈ db.lessons.slots -> slot.status = .booked ->
      db.lessons.clock < slot.startAt -> Connected db slot.teacherAccountId ->
        (db.external slot.id).isSome ∨ db.onRecord .push (slot.id, .create) = true) ∧
      ∀ slot, slot ∈ db.lessons.slots -> slot.status = .cancelled ->
        (db.external slot.id).isSome -> DeleteOnRecord db slot.id)
    ⟨fun both => ⟨both.1, both.2⟩, fun complete => ⟨complete.booked, complete.cancelled⟩⟩

end Complete

inductive Due where
  | push (slotId teacherAccountId : RowId)
  | intent (slotId : RowId)
  deriving DecidableEq

def Write.due : Write -> Option Due
  | .lesson _ => none
  | .createPush slotId teacherAccountId => some (.push slotId teacherAccountId)
  | .postCancelIntent slotId => some (.intent slotId)

def Label.due : Label -> Option Due
  | .lesson _ => none
  | .readIntegration slotId teacherAccountId => some (.push slotId teacherAccountId)
  | .enqueueCreate slotId teacherAccountId => some (.push slotId teacherAccountId)
  | .insertIntent slotId => some (.intent slotId)

/-- What a program that has queued these writes has still to enqueue. -/
def due (pending : List Write) : Program -> Option Due
  | .statement label _ _ _ _ => label.due
  | .commit _ _ => pending.findSome? Write.due
  | _ => none

def dueOf (state : State) (session : Nat) : Option Due :=
  due (state.sessions session).pending (state.sessions session).program

end Coverage
end Calendar
end LevelChannel
