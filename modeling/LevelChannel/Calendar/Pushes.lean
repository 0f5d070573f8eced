import LevelChannel.Calendar.Integrations
import LevelChannel.Calendar.Jobs
import LevelChannel.ReadCommitted.Statements
import LevelChannel.Schema.Lessons

namespace LevelChannel

open ReadCommitted

namespace Calendar

/-!
# The event of a cancelled lesson

Booking a lesson enqueues one job that creates its event; cancelling it leaves an intent,
whose worker enqueues a job that deletes the event.  The workers read the slot, call Google,
and write what came of it, and none of this is one step.  An event that outlives all of it
is harmless as long as the slot still names it, since the reconcile sweep then finds it.

This is about one slot.  Its event id is computed from the slot's, and the calendar that
events are written to stays the same.
-/

/-! ## The slot, its jobs and Google -/

/-- The columns of `lesson_slots` the workers read and write. -/
structure PushedSlot where
  status : SlotStatus
  externalEventId : Option String
  externalCalendarId : Option String
  deriving DecidableEq

/-- What does not change: `deterministicEventId` of the slot, and the write calendar. -/
structure PushSetting where
  eventId : String
  writeCalendarId : String

/-- The slot, the calendars in which Google holds its event, the job that creates the
event and who has claimed it, the jobs that delete it, and the intents. -/
structure PushDb where
  slot : PushedSlot
  events : List String
  create : Job PushKind
  owner : Option Nat
  deletes : List (Job PushKind)
  intents : List (Job IntentKind)
  nextId : Nat
  syncState : Option SyncState
  now : Nat

inductive PushWrite where
  | cancelSlot
  | claimCreate (session : Nat)
  | settleCreate (attempts : Nat) (outcome : JobOutcome)
  | cancelCreate
  | insertEvent
  | bind
  | enqueueDelete
  | claimDelete (id : Nat)
  | settleDelete (id attempts : Nat) (outcome : JobOutcome)
  | deleteEvent (calendar eventId : String)
  | clearBinding (eventId : Option String)
  | insertIntent
  | claimIntent (id : Nat)
  | settleIntent (id attempts : Nat) (outcome : JobOutcome)
  | reviveIntents

/-- Time passes, the integration changes its state, the lesson goes on or an administrator
cancels it, and the teacher deletes events. -/
inductive PushDrift where
  | clock (passed : Nat)
  | syncState (state : Option SyncState)
  | lesson (status : SlotStatus)
  | deleted (calendar : String)

def JobStatus.finished (status : JobStatus) : Bool :=
  status ≠ .pending ∧ status ≠ .inProgress

def Job.claimable {Key : Type} (now : Nat) (job : Job Key) : Bool :=
  job.status = .pending ∧ job.nextRunAt ≤ now

def slotStatusText : SlotStatus -> String
  | .open => "open"
  | .booked => "booked"
  | .cancelled => "cancelled"
  | .completed => "completed"
  | .noShowLearner => "no_show_learner"
  | .noShowTeacher => "no_show_teacher"
  | .personalEvent => "personal_event"

/-- A blocked intent as `reviveBlockedIntents` leaves it. -/
def reviveBlocked (now : Nat) (intent : Job IntentKind) : Job IntentKind :=
  if intent.status = .blockedIntegration then
    { intent with status := .pending, nextRunAt := now }
  else intent

namespace PushDb

variable (setting : PushSetting) (db : PushDb)

def apply : PushWrite -> PushDb
  | .cancelSlot => { db with slot := { db.slot with status := .cancelled } }
  | .claimCreate session => { db with create := db.create.claimed db.now, owner := some session }
  | .settleCreate attempts outcome =>
    { db with create := QueueName.push.rules.settle db.now attempts outcome db.create }
  | .cancelCreate =>
    if db.create.status = .pending then
      { db with create := { db.create with status := .cancelledByDependent } }
    else db
  | .insertEvent => { db with events := setting.writeCalendarId :: db.events }
  | .bind =>
    { db with
      slot := { db.slot with
        externalEventId := some setting.eventId
        externalCalendarId := some setting.writeCalendarId } }
  | .enqueueDelete =>
    if db.deletes.any (Job.waitsFor .delete) then db
    else
      { db with
        deletes := db.deletes ++ [.enqueued db.nextId .delete 0 db.now]
        nextId := db.nextId + 1 }
  | .claimDelete id =>
    { db with deletes := JobQueue.updateWhereId id (Job.claimed db.now) db.deletes }
  | .settleDelete id attempts outcome =>
    { db with
      deletes := JobQueue.updateWhereId id
        (QueueName.push.rules.settle db.now attempts outcome) db.deletes }
  | .deleteEvent calendar eventId =>
    if eventId = setting.eventId then
      { db with events := db.events.filter fun held => held ≠ calendar }
    else db
  | .clearBinding eventId =>
    -- `external_event_id = $2` holds of no row when `$2` is null
    if eventId.isSome ∧ db.slot.externalEventId = eventId then
      { db with slot := { db.slot with externalEventId := none, externalCalendarId := none } }
    else db
  | .insertIntent =>
    if db.intents.any (Job.waitsFor .postCancelPush) then db
    else
      { db with
        intents := db.intents ++ [.enqueued db.nextId .postCancelPush 0 db.now]
        nextId := db.nextId + 1 }
  | .claimIntent id =>
    { db with intents := JobQueue.updateWhereId id (Job.claimed db.now) db.intents }
  | .settleIntent id attempts outcome =>
    { db with
      intents := JobQueue.updateWhereId id
        (QueueName.intent.rules.settle db.now attempts outcome) db.intents }
  | .reviveIntents => { db with intents := db.intents.map (reviveBlocked db.now) }

def drift : PushDrift -> PushDb
  | .clock passed => { db with now := db.now + passed }
  | .syncState state => { db with syncState := state }
  | .lesson status =>
    if db.slot.status = .cancelled then db
    else { db with slot := { db.slot with status := status } }
  | .deleted calendar => { db with events := db.events.filter fun held => held ≠ calendar }

/-- No push job and no intent of the slot is pending or in progress. -/
def Quiet : Prop :=
  db.create.status.finished = true ∧
    (∀ job, job ∈ db.deletes -> job.status.finished = true) ∧
      ∀ job, job ∈ db.intents -> job.status.finished = true

instance : Decidable db.Quiet :=
  inferInstanceAs (Decidable (_ ∧ _ ∧ _))

def Bound (calendar : String) : Prop :=
  db.slot.externalEventId = some setting.eventId ∧ db.slot.externalCalendarId = some calendar

end PushDb

def pushStore (setting : PushSetting) : Store PushDb Unit PushWrite PushDrift where
  apply := PushDb.apply setting
  drift change db := db.drift change
  close _ db := db
  conflict _ _ := true
  conflict_comm _ _ := rfl

/-! ## The workers -/

/-- What a call comes to.  A worker that looks for work is given the job it claims. -/
inductive PushAnswer where
  | ok
  | refused
  | conflict
  | createJob
  | job (id : Nat)
  | failed (reason : String) (transient : Bool)
  deriving DecidableEq

abbrev PushProgram :=
  ReadCommitted.Program PushDb Unit PushWrite Unit PushAnswer Unit

abbrev PushState :=
  ReadCommitted.State PushDb Unit PushWrite Unit PushAnswer Unit

namespace Pushing

def ask (next : PushDb -> PushProgram) : PushProgram :=
  .call () (fun _ _ => []) fun db _ => next db

/-- A statement or a transaction of a few; when it fails, the worker ends with the error. -/
def act (writes : PushDb -> List PushWrite) (next : PushProgram) : PushProgram :=
  .call () (fun db answer => if answer = .refused then [] else writes db)
    fun _ answer => if answer = .refused then .done () else next

variable (setting : PushSetting)

/-- `markFailure`, or the updates to `cancelled_by_dependent`, on the job that creates. -/
def finishCreate (attempts : Nat) (outcome : JobOutcome) : PushProgram :=
  act (fun _ => [.settleCreate attempts outcome]) (.done ())

/-- The end of `processCreate`: one transaction binds the slot, whatever its status is by
now, and ends the job. -/
def bindSlot (attempts : Nat) : PushProgram :=
  act (fun _ => [.bind, .settleCreate attempts .succeeded]) (.done ())

/-- `getAndConfirmOwnership` -/
def confirmOwnership (attempts : Nat) : PushProgram :=
  .call () (fun _ _ => []) fun _ answer =>
    match answer with
    | .ok => bindSlot attempts
    | .failed reason transient => finishCreate attempts (.failed reason transient)
    | _ => .done ()

/-- `insertEventIdempotent` behind `withTokenRetry`.  Google refuses an id it holds, and one
it has held. -/
def insertEventIdempotent (attempts : Nat) : PushProgram :=
  .call ()
    (fun db answer =>
      if answer = .ok ∧ setting.writeCalendarId ∉ db.events then [.insertEvent] else [])
    fun db answer =>
      match answer with
      | .ok =>
        if setting.writeCalendarId ∈ db.events then confirmOwnership attempts
        else bindSlot attempts
      | .conflict => confirmOwnership attempts
      | .failed reason transient => finishCreate attempts (.failed reason transient)
      | _ => .done ()

def processCreate (attempts : Nat) : PushProgram :=
  ask fun db =>
    if db.slot.status = .cancelled then finishCreate attempts .cancelledByDependent
    else insertEventIdempotent setting attempts

/-- `markFailure` on a job that deletes; the index may refuse it. -/
def finishDelete (id attempts : Nat) (outcome : JobOutcome) : PushProgram :=
  act
    (fun db =>
      if JobQueue.Indexed (JobQueue.updateWhereId id
          (QueueName.push.rules.settle db.now attempts outcome) db.deletes) then
        [.settleDelete id attempts outcome]
      else [])
    (.done ())

/-- `processDelete`; Google's answer that there is no such event counts as success. -/
def processDelete (id attempts : Nat) : PushProgram :=
  ask fun read =>
    .call ()
      (fun _ answer =>
        if answer = .ok then
          [.deleteEvent (read.slot.externalCalendarId.getD setting.writeCalendarId)
            (read.slot.externalEventId.getD setting.eventId)]
        else [])
      fun _ answer =>
        match answer with
        | .ok =>
          act
            (fun _ => [.clearBinding read.slot.externalEventId,
              .settleDelete id attempts .succeeded])
            (.done ())
        | .failed reason transient => finishDelete id attempts (.failed reason transient)
        | _ => .done ()

/-- One round of `drainPushJobs`: a claim, and the work on what was claimed. -/
def pushWorker (session : Nat) : PushProgram :=
  .call ()
    (fun db answer =>
      match answer with
      | .createJob => if db.create.claimable db.now then [.claimCreate session] else []
      | .job id =>
        if db.deletes.any fun job => job.id = id ∧ job.claimable db.now then [.claimDelete id]
        else []
      | _ => [])
    fun db answer =>
      match answer with
      | .createJob =>
        if db.create.claimable db.now then processCreate setting (db.create.attempts + 1)
        else .done ()
      | .job id =>
        match db.deletes.find? fun job => job.id = id ∧ job.claimable db.now with
        | some job => processDelete setting id (job.attempts + 1)
        | none => .done ()
      | _ => .done ()

/-- `markSucceeded`, `markBlocked`, `markTerminal` and `reschedule` of the intent worker. -/
def finishIntent (id attempts : Nat) (outcome : JobOutcome) : PushProgram :=
  act
    (fun db =>
      if JobQueue.Indexed (JobQueue.updateWhereId id
          (QueueName.intent.rules.settle db.now attempts outcome) db.intents) then
        [.settleIntent id attempts outcome]
      else [])
    (.done ())

def processPostCancelPush (id attempts : Nat) : PushProgram :=
  ask fun row =>
    match row.syncState with
    | none => finishIntent id attempts .succeeded
    | some .disconnected =>
      if 10 ≤ attempts then
        finishIntent id attempts
          (.terminal ("disconnected_beyond_max_attempts (" ++ toString attempts ++ ")"))
      else finishIntent id attempts .blocked
    | some _ =>
      if row.slot.status ≠ .cancelled then
        finishIntent id attempts
          (.terminal ("slot_status_" ++ slotStatusText row.slot.status ++ "_not_cancelled"))
      else
        act (fun _ => [.enqueueDelete]) <|
          act (fun _ => [.cancelCreate]) <|
            ask fun verify =>
              if (verify.deletes.all fun job => job.status.finished) ∧
                  row.slot.externalEventId.isSome then
                finishIntent id attempts
                  (.rescheduled "enqueue_no_op_external_event_still_bound")
              else finishIntent id attempts .succeeded

/-- One round of `drainIntents`. -/
def intentWorker : PushProgram :=
  .call ()
    (fun db answer =>
      match answer with
      | .job id =>
        if db.intents.any fun job => job.id = id ∧ job.claimable db.now then [.claimIntent id]
        else []
      | _ => [])
    fun db answer =>
      match answer with
      | .job id =>
        match db.intents.find? fun job => job.id = id ∧ job.claimable db.now with
        | some job => processPostCancelPush id (job.attempts + 1)
        | none => .done ()
      | _ => .done ()

def cancelLesson : PushProgram :=
  .call ()
    (fun db answer =>
      if answer ≠ .refused ∧ db.slot.status = .booked then [.cancelSlot] else [])
    fun db answer =>
      if answer ≠ .refused ∧ db.slot.status = .booked then
        act (fun _ => [.insertIntent]) (.done ())
      else .done ()

/-- `reviveBlockedIntents`, which the index may refuse. -/
def reviveBlockedIntents : PushProgram :=
  act
    (fun db =>
      if (db.syncState = some .active ∨ db.syncState = some .degraded) ∧
          JobQueue.Indexed (db.intents.map (reviveBlocked db.now)) then
        [.reviveIntents]
      else [])
    (.done ())

end Pushing

inductive PushRequest where
  | cancel
  | drainPushJobs
  | drainIntents
  | reviveBlockedIntents
  /-- The reconcile sweep enqueues a delete job. -/
  | enqueueDelete

def PushRequest.program (setting : PushSetting) (session : Nat) : PushRequest -> PushProgram
  | .cancel => Pushing.cancelLesson
  | .drainPushJobs => Pushing.pushWorker setting session
  | .drainIntents => Pushing.intentWorker
  | .reviveBlockedIntents => Pushing.reviveBlockedIntents
  | .enqueueDelete => Pushing.act (fun _ => [.enqueueDelete]) (.done ())

/-- The job that creates the event has just been enqueued, and the slot names no event.
The slot may have been cancelled since it was booked, and there may be jobs and intents. -/
def pushOpening (setting : PushSetting) (status : SlotStatus)
    (deletes : List (Job PushKind)) (intents : List (Job IntentKind)) (nextId : Nat)
    (syncState : Option SyncState) (now : Nat) (requests : Nat -> PushRequest) : PushState :=
  State.start
    { slot := ⟨status, none, none⟩
      events := []
      create := .enqueued 0 .create 0 now
      owner := none
      deletes := deletes
      intents := intents
      nextId := nextId
      syncState := syncState
      now := now }
    fun session => (requests session).program setting session

/-! ## What a run keeps -/

/-- The session works on the job that creates the event. -/
def PushDb.Holds (session : Nat) (db : PushDb) : Prop :=
  db.create.status = .inProgress ∧ db.owner = some session

/-- The event is in the write calendar only, and where there is one it is bound or the job
that creates it is not done with it.  Once the slot is bound that job has ended. -/
structure EventsHeld (setting : PushSetting) (db : PushDb) : Prop where
  calendar : ∀ calendar, calendar ∈ db.events -> calendar = setting.writeCalendarId
  held : db.events = [] ∨ db.Bound setting setting.writeCalendarId ∨
    db.create.status = .inProgress
  bound : db.slot.externalEventId.isSome = true ->
    db.Bound setting setting.writeCalendarId ∧ db.create.status.finished = true

/-- What a worker leaves to the others: a job in the hands of another one, an end of the
job, and, unless the job is in its own hands, no new event. -/
structure LeavesCreate (session : Nat) (before after : PushDb) : Prop where
  mine : before.create.status = .inProgress -> before.owner ≠ some session ->
    after.create.status = .inProgress ∧ after.owner = before.owner
  ended : before.create.status.finished = true -> after.create.status.finished = true
  events : ¬ before.Holds session -> after.events ⊆ before.events

def pushContract (setting : PushSetting) : Contract PushDb Unit where
  Good := EventsHeld setting
  Guarantee session _ := LeavesCreate session

/-- What is left alone by all that has nothing to do with creating the event. -/
structure SameCreate (before after : PushDb) : Prop where
  create : after.create = before.create
  owner : after.owner = before.owner
  events : after.events = before.events
  eventId : after.slot.externalEventId = before.slot.externalEventId
  calendarId : after.slot.externalCalendarId = before.slot.externalCalendarId

variable {setting : PushSetting} {db before after : PushDb} {session : Nat}

theorem finished_iff {status : JobStatus} :
    status.finished = true <-> status ≠ .pending ∧ status ≠ .inProgress := by
  simp [JobStatus.finished]

theorem LeavesCreate.of_events (create : after.create = before.create)
    (owner : after.owner = before.owner) (events : after.events ⊆ before.events) :
    LeavesCreate session before after := by
  constructor
  · intro working _
    exact ⟨create ▸ working, owner⟩
  · intro ended
    exact create ▸ ended
  · intro _
    exact events

/-- A worker does as it should in one step. -/
def KeptEvents (setting : PushSetting) (session : Nat) (before after : PushDb) : Prop :=
  EventsHeld setting after ∧ LeavesCreate session before after

theorem SameCreate.kept (same : SameCreate before after) (good : EventsHeld setting before) :
    KeptEvents setting session before after := by
  constructor
  · constructor
    · rw [same.events]
      exact good.calendar
    · rw [PushDb.Bound, same.events, same.eventId, same.calendarId, same.create]
      exact good.held
    · rw [PushDb.Bound, same.eventId, same.calendarId, same.create]
      exact good.bound
  · exact LeavesCreate.of_events same.create same.owner (same.events ▸ List.Subset.refl _)

theorem KeptEvents.same (kept : KeptEvents setting session db before)
    (same : SameCreate before after) : KeptEvents setting session db after := by
  have held : KeptEvents setting session before after := same.kept kept.1
  refine ⟨held.1, ?_⟩
  constructor
  · rw [same.create, same.owner]
    exact kept.2.mine
  · rw [same.create]
    exact kept.2.ended
  · rw [same.events]
    exact kept.2.events

theorem kept_refl (good : EventsHeld setting db) : KeptEvents setting session db db :=
  SameCreate.kept ⟨rfl, rfl, rfl, rfl, rfl⟩ good

def PushWrite.aside : PushWrite -> Bool
  | .cancelSlot | .enqueueDelete | .claimDelete _ | .settleDelete _ _ _ | .insertIntent
  | .claimIntent _ | .settleIntent _ _ _ | .reviveIntents => true
  | _ => false

variable (setting) in
theorem aside_same (write : PushWrite) (aside : write.aside = true) :
    SameCreate db (db.apply setting write) := by
  cases write with
  | enqueueDelete | insertIntent =>
    rw [PushDb.apply]
    split
    all_goals exact ⟨rfl, rfl, rfl, rfl, rfl⟩
  | cancelSlot | claimDelete | settleDelete | claimIntent | settleIntent | reviveIntents =>
    exact ⟨rfl, rfl, rfl, rfl, rfl⟩
  | _ => cases aside

theorem pending_of_claimable {Key : Type} {now : Nat} {job : Job Key}
    (claimable : job.claimable now = true) : job.status = .pending :=
  (of_decide_eq_true claimable).1

theorem EventsHeld.none_pending (good : EventsHeld setting db)
    (pending : db.create.status = .pending) : db.events = [] ∧ db.slot.externalEventId = none := by
  have unbound : db.slot.externalEventId = none := by
    by_contra bound
    have ended := (good.bound (Option.isSome_iff_ne_none.mpr bound)).2
    exact (finished_iff.mp ended).1 pending
  refine ⟨?_, unbound⟩
  rcases good.held with empty | bound | working
  · exact empty
  · rw [PushDb.Bound, unbound] at bound
    cases bound.1
  · rw [pending] at working
    cases working

theorem EventsHeld.unbound_working (good : EventsHeld setting db)
    (working : db.create.status = .inProgress) : db.slot.externalEventId = none := by
  by_contra bound
  have ended := (good.bound (Option.isSome_iff_ne_none.mpr bound)).2
  exact (finished_iff.mp ended).2 working

theorem EventsHeld.of_none (empty : db.events = []) (unbound : db.slot.externalEventId = none) :
    EventsHeld setting db := by
  constructor
  · rw [empty]
    intro calendar member
    cases member
  · exact Or.inl empty
  · rw [unbound]
    intro bound
    cases bound

theorem claimCreate_kept (good : EventsHeld setting db) (pending : db.create.status = .pending) :
    KeptEvents setting session db (db.apply setting (.claimCreate session)) := by
  rcases good.none_pending pending with ⟨empty, unbound⟩
  refine ⟨EventsHeld.of_none empty unbound, ?_⟩
  constructor
  · intro working
    rw [pending] at working
    cases working
  · intro ended
    exact absurd pending (finished_iff.mp ended).1
  · intro _
    exact List.Subset.refl _

theorem cancelCreate_kept (good : EventsHeld setting db) :
    KeptEvents setting session db (db.apply setting .cancelCreate) := by
  rw [PushDb.apply]
  by_cases pending : db.create.status = .pending
  · rw [if_pos pending]
    rcases good.none_pending pending with ⟨empty, unbound⟩
    refine ⟨EventsHeld.of_none empty unbound, ?_⟩
    constructor
    · intro working
      rw [pending] at working
      cases working
    · intro _
      rfl
    · intro _
      exact List.Subset.refl _
  · rw [if_neg pending]
    exact kept_refl good

theorem LeavesCreate.of_holds (holds : before.Holds session) :
    LeavesCreate session before after := by
  constructor
  · intro _ other
    exact absurd holds.2 other
  · intro ended
    exact absurd holds.1 (finished_iff.mp ended).2
  · intro other
    exact absurd holds other

theorem insertEvent_kept (good : EventsHeld setting db) (holds : db.Holds session) :
    KeptEvents setting session db (db.apply setting .insertEvent) := by
  refine ⟨?_, LeavesCreate.of_holds holds⟩
  constructor
  · intro calendar member
    rcases List.mem_cons.mp member with rfl | old
    · rfl
    · exact good.calendar calendar old
  · exact Or.inr (Or.inr holds.1)
  · exact good.bound

theorem settleCreate_kept (good : EventsHeld setting db) (holds : db.Holds session)
    (empty : db.events = []) (attempts : Nat) (outcome : JobOutcome) :
    KeptEvents setting session db (db.apply setting (.settleCreate attempts outcome)) :=
  ⟨EventsHeld.of_none empty (good.unbound_working holds.1), LeavesCreate.of_holds holds⟩

theorem bind_kept (good : EventsHeld setting db) (holds : db.Holds session) (attempts : Nat) :
    KeptEvents setting session db
      ((db.apply setting .bind).apply setting (.settleCreate attempts .succeeded)) := by
  refine ⟨?_, LeavesCreate.of_holds holds⟩
  constructor
  · exact good.calendar
  · exact Or.inr (Or.inl ⟨rfl, rfl⟩)
  · intro _
    exact ⟨⟨rfl, rfl⟩, rfl⟩

theorem fewer_kept (good : EventsHeld setting db) (events : List String)
    (fewer : events ⊆ db.events) :
    KeptEvents setting session db { db with events := events } := by
  refine ⟨?_, LeavesCreate.of_events rfl rfl fewer⟩
  constructor
  · intro calendar member
    exact good.calendar calendar (fewer member)
  · rcases good.held with empty | rest
    · rw [empty] at fewer
      exact Or.inl (List.subset_nil.mp fewer)
    · exact Or.inr rest
  · exact good.bound

theorem deleteEvent_kept (good : EventsHeld setting db) (calendar eventId : String) :
    KeptEvents setting session db (db.apply setting (.deleteEvent calendar eventId)) := by
  rw [PushDb.apply]
  by_cases same : eventId = setting.eventId
  · rw [if_pos same]
    exact fewer_kept good _ (List.filter_subset_self _)
  · rw [if_neg same]
    exact kept_refl good

theorem clearBinding_kept {eventId : Option String} (good : EventsHeld setting db)
    (empty : eventId.isSome = true -> db.events = []) :
    KeptEvents setting session db (db.apply setting (.clearBinding eventId)) := by
  rw [PushDb.apply]
  by_cases here : eventId.isSome = true ∧ db.slot.externalEventId = eventId
  · rw [if_pos here]
    exact ⟨EventsHeld.of_none (empty here.1) rfl,
      LeavesCreate.of_events rfl rfl (List.Subset.refl _)⟩
  · rw [if_neg here]
    exact kept_refl good

theorem drift_kept (change : PushDrift) (good : EventsHeld setting db) :
    KeptEvents setting session db (db.drift change) := by
  cases change with
  | clock passed => exact SameCreate.kept ⟨rfl, rfl, rfl, rfl, rfl⟩ good
  | syncState state => exact SameCreate.kept ⟨rfl, rfl, rfl, rfl, rfl⟩ good
  | lesson status =>
    rw [PushDb.drift]
    split
    · exact kept_refl good
    · exact SameCreate.kept ⟨rfl, rfl, rfl, rfl, rfl⟩ good
  | deleted calendar => exact fewer_kept good _ (List.filter_subset_self _)

/-! ## The workers keep it -/

/-- A fact that no other worker can end. -/
def Settled (session : Nat) (P : PushDb -> Prop) : Prop :=
  ∀ other before after, other ≠ session -> P before -> LeavesCreate other before after ->
    P after

theorem always_settled (session : Nat) : Settled session fun _ => True :=
  fun _ _ _ _ _ _ => trivial

theorem holds_settled (session : Nat) : Settled session (PushDb.Holds session) := by
  intro other before after different holds leaves
  have others : before.owner ≠ some other := by
    rw [holds.2]
    exact fun same => different (Option.some.inj same).symm
  rcases leaves.mine holds.1 others with ⟨working, owner⟩
  exact ⟨working, owner.trans holds.2⟩

theorem none_settled {P : PushDb -> Prop} (settled : Settled session P)
    (others : ∀ other db, other ≠ session -> P db -> ¬ db.Holds other) :
    Settled session fun db => P db ∧ db.events = [] := by
  rintro other before after different ⟨holds, empty⟩ leaves
  refine ⟨settled other before after different holds leaves, ?_⟩
  have fewer := leaves.events (others other before different holds)
  rw [empty] at fewer
  exact List.subset_nil.mp fewer

theorem holdsNone_settled (session : Nat) :
    Settled session fun db => db.Holds session ∧ db.events = [] := by
  apply none_settled (holds_settled session)
  intro other db different mine theirs
  exact different (Option.some.inj (theirs.2.symm.trans mine.2))

theorem ended_settled (session : Nat) :
    Settled session fun db => db.create.status.finished = true :=
  fun _ _ _ _ ended leaves => leaves.ended ended

theorem endedNone_settled (session : Nat) :
    Settled session fun db => db.create.status.finished = true ∧ db.events = [] := by
  apply none_settled (ended_settled session)
  intro other db _ ended theirs
  exact (finished_iff.mp ended).2 theirs.1

theorem Settled.when {P : PushDb -> Prop} (settled : Settled session P) (fact : Prop) :
    Settled session fun db => fact -> P db :=
  fun other before after different holds leaves held =>
    settled other before after different (holds held) leaves

theorem Settled.stable {P : PushDb -> Prop} (settled : Settled session P) :
    (pushContract setting).Stable (pushStore setting) session [] P := by
  rintro before after holds ⟨good, -, ⟨change, rfl⟩ | ⟨other, theirs, different, -, leaves⟩⟩
  · exact settled (session + 1) before _ (Nat.succ_ne_self session) holds
      (drift_kept change good).2
  · exact settled other before after different holds leaves

abbrev KeepsEvents (setting : PushSetting) (session : Nat) (program : PushProgram) (db : PushDb) :
    Prop :=
  (pushContract setting).Safe (pushStore setting) (fun _ _ => True) session program [] [] db

namespace Pushing

variable {P : PushDb -> Prop} (settled : Settled session P)

include settled in
theorem call_keeps {writes : PushDb -> PushAnswer -> List PushWrite}
    {next : PushDb -> PushAnswer -> PushProgram} (holds : P db)
    (kept : ∀ now, P now -> EventsHeld setting now -> ∀ answer,
      KeptEvents setting session now ((pushStore setting).applyAll now (writes now answer)))
    (went : ∀ now, P now -> EventsHeld setting now -> ∀ answer,
      KeepsEvents setting session (next now answer)
        ((pushStore setting).applyAll now (writes now answer))) :
    KeepsEvents setting session (.call () writes next) db := by
  apply Contract.Safe.call P settled.stable holds
  · intro now still good _ answer
    exact kept now still good answer
  · intro now still good _ answer
    exact went now still good answer

include settled in
theorem ask_keeps {next : PushDb -> PushProgram} (holds : P db)
    (went : ∀ now, P now -> EventsHeld setting now -> KeepsEvents setting session (next now) now) :
    KeepsEvents setting session (ask next) db := by
  apply call_keeps settled holds
  · intro now _ good _
    exact kept_refl good
  · intro now still good _
    exact went now still good

include settled in
theorem act_keeps {writes : PushDb -> List PushWrite} {next : PushProgram} (holds : P db)
    (kept : ∀ now, P now -> EventsHeld setting now ->
      KeptEvents setting session now ((pushStore setting).applyAll now (writes now)))
    (went : ∀ now, KeepsEvents setting session next now) :
    KeepsEvents setting session (act writes next) db := by
  apply call_keeps settled holds
  · intro now still good answer
    by_cases refused : answer = .refused
    · rw [if_pos refused]
      exact kept_refl good
    · rw [if_neg refused]
      exact kept now still good
  · intro now _ _ answer
    by_cases refused : answer = .refused
    · rw [if_pos refused]
      trivial
    · rw [if_neg refused]
      exact went _

theorem aside_keeps {writes : PushDb -> List PushWrite} {next : PushProgram}
    (aside : ∀ now, writes now = [] ∨ ∃ write, writes now = [write] ∧ write.aside = true)
    (went : ∀ now, KeepsEvents setting session next now) :
    KeepsEvents setting session (act writes next) db := by
  apply act_keeps (always_settled session) trivial _ went
  intro now _ good
  rcases aside now with empty | ⟨write, single, aside⟩
  · rw [empty]
    exact kept_refl good
  · rw [single]
    exact (aside_same setting write aside).kept good

theorem done_keeps (now : PushDb) : KeepsEvents setting session (.done ()) now := trivial

theorem finishCreate_keeps (holds : db.Holds session ∧ db.events = []) (attempts : Nat)
    (outcome : JobOutcome) : KeepsEvents setting session (finishCreate attempts outcome) db := by
  apply act_keeps (holdsNone_settled session) holds _ done_keeps
  intro now still good
  exact settleCreate_kept good still.1 still.2 attempts outcome

theorem bindSlot_keeps (holds : db.Holds session) (attempts : Nat) :
    KeepsEvents setting session (bindSlot attempts) db := by
  apply act_keeps (holds_settled session) holds _ done_keeps
  intro now still good
  exact bind_kept good still attempts

theorem confirmOwnership_keeps (holds : db.Holds session ∧ db.events = []) (attempts : Nat) :
    KeepsEvents setting session (confirmOwnership attempts) db := by
  apply call_keeps (holdsNone_settled session) holds
  · intro now _ good _
    exact kept_refl good
  · intro now still _ answer
    cases answer with
    | ok => exact bindSlot_keeps still.1 attempts
    | failed reason transient => exact finishCreate_keeps still attempts _
    | refused | conflict | createJob | job => trivial

theorem insertEventIdempotent_keeps (holds : db.Holds session ∧ db.events = [])
    (attempts : Nat) : KeepsEvents setting session (insertEventIdempotent setting attempts) db := by
  apply call_keeps (holdsNone_settled session) holds
  · intro now still good answer
    split
    · exact insertEvent_kept good still.1
    · exact kept_refl good
  · intro now still _ answer
    cases answer with
    | ok =>
      have absent : setting.writeCalendarId ∉ now.events := by
        rw [still.2]
        exact List.not_mem_nil
      dsimp only
      rw [if_neg absent, if_pos ⟨rfl, absent⟩]
      have held : (now.apply setting .insertEvent).Holds session := still.1
      exact bindSlot_keeps held attempts
    | conflict => exact confirmOwnership_keeps still attempts
    | failed reason transient => exact finishCreate_keeps still attempts _
    | refused | createJob | job => trivial

theorem processCreate_keeps (holds : db.Holds session ∧ db.events = []) (attempts : Nat) :
    KeepsEvents setting session (processCreate setting attempts) db := by
  apply ask_keeps (holdsNone_settled session) holds
  intro now still _
  split
  · exact finishCreate_keeps still attempts _
  · exact insertEventIdempotent_keeps still attempts

theorem finishDelete_keeps (id attempts : Nat) (outcome : JobOutcome) :
    KeepsEvents setting session (finishDelete id attempts outcome) db := by
  apply aside_keeps _ done_keeps
  intro now
  split
  · exact Or.inr ⟨_, rfl, rfl⟩
  · exact Or.inl rfl

theorem deleteEvent_none {read : PushDb} (good : EventsHeld setting db)
    (bound : read.Bound setting setting.writeCalendarId) :
    (db.apply setting (.deleteEvent (read.slot.externalCalendarId.getD setting.writeCalendarId)
      (read.slot.externalEventId.getD setting.eventId))).events = [] := by
  rw [bound.1, bound.2, Option.getD_some, Option.getD_some, PushDb.apply, if_pos rfl]
  rw [List.filter_eq_nil_iff]
  intro calendar member
  simp [good.calendar calendar member]

theorem clearBinding_keeps {eventId : Option String}
    (empty : eventId.isSome = true -> db.create.status.finished = true ∧ db.events = [])
    (id attempts : Nat) : KeepsEvents setting session
      (act (fun _ => [.clearBinding eventId, .settleDelete id attempts .succeeded]) (.done ()))
      db := by
  apply act_keeps ((endedNone_settled session).when _) empty _ done_keeps
  intro now still good
  have cleared : KeptEvents setting session now (now.apply setting (.clearBinding eventId)) :=
    clearBinding_kept good fun bound => (still bound).2
  exact cleared.same (aside_same setting (.settleDelete id attempts .succeeded) rfl)

theorem processDelete_keeps (id attempts : Nat) :
    KeepsEvents setting session (processDelete setting id attempts) db := by
  apply ask_keeps (always_settled session) trivial
  intro read _ readGood
  -- the job that creates the event has ended if the slot is bound
  have ended : read.slot.externalEventId.isSome = true -> read.create.status.finished = true :=
    fun bound => (readGood.bound bound).2
  apply call_keeps ((ended_settled session).when _) ended
  · intro now _ good answer
    split
    · exact deleteEvent_kept good _ _
    · exact kept_refl good
  · intro now still good answer
    cases answer with
    | ok =>
      apply clearBinding_keeps
      intro bound
      have leaves : LeavesCreate session now (now.apply setting (.deleteEvent
          (read.slot.externalCalendarId.getD setting.writeCalendarId)
          (read.slot.externalEventId.getD setting.eventId))) := (deleteEvent_kept good _ _).2
      exact ⟨leaves.ended (still bound), deleteEvent_none good (readGood.bound bound).1⟩
    | failed reason transient => exact finishDelete_keeps id attempts _
    | refused | conflict | createJob | job => trivial

theorem pushWorker_keeps (db : PushDb) :
    KeepsEvents setting session (pushWorker setting session) db := by
  apply call_keeps (always_settled session) trivial
  · intro now _ good answer
    cases answer with
    | createJob =>
      dsimp only
      split
      · exact claimCreate_kept good (pending_of_claimable ‹_›)
      · exact kept_refl good
    | job id =>
      dsimp only
      split
      · exact (aside_same setting (.claimDelete id) rfl).kept good
      · exact kept_refl good
    | ok | refused | conflict | failed => exact kept_refl good
  · intro now _ good answer
    cases answer with
    | createJob =>
      dsimp only
      by_cases claimable : now.create.claimable now.now = true
      · rw [if_pos claimable, if_pos claimable]
        apply processCreate_keeps
        exact ⟨⟨rfl, rfl⟩, (good.none_pending (pending_of_claimable claimable)).1⟩
      · rw [if_neg claimable]
        trivial
    | job id =>
      dsimp only
      split
      · exact processDelete_keeps id _
      · trivial
    | ok | refused | conflict | failed => trivial

theorem finishIntent_keeps (id attempts : Nat) (outcome : JobOutcome) :
    KeepsEvents setting session (finishIntent id attempts outcome) db := by
  apply aside_keeps _ done_keeps
  intro now
  split
  · exact Or.inr ⟨_, rfl, rfl⟩
  · exact Or.inl rfl

theorem processPostCancelPush_keeps (id attempts : Nat) :
    KeepsEvents setting session (processPostCancelPush id attempts) db := by
  apply ask_keeps (always_settled session) trivial
  intro row _ _
  split
  · exact finishIntent_keeps id attempts _
  · split
    all_goals exact finishIntent_keeps id attempts _
  split
  · exact finishIntent_keeps id attempts _
  apply aside_keeps fun _ => Or.inr ⟨_, rfl, rfl⟩
  intro enqueued
  apply act_keeps (always_settled session) trivial
  · intro now _ good
    exact cancelCreate_kept good
  intro cancelled
  apply ask_keeps (always_settled session) trivial
  intro verify _ _
  split
  all_goals exact finishIntent_keeps id attempts _

theorem intentWorker_keeps (db : PushDb) : KeepsEvents setting session intentWorker db := by
  apply call_keeps (always_settled session) trivial
  · intro now _ good answer
    cases answer with
    | job id =>
      dsimp only
      split
      · exact (aside_same setting (.claimIntent id) rfl).kept good
      · exact kept_refl good
    | ok | refused | conflict | createJob | failed => exact kept_refl good
  · intro now _ _ answer
    cases answer with
    | job id =>
      dsimp only
      split
      · exact processPostCancelPush_keeps id _
      · trivial
    | ok | refused | conflict | createJob | failed => trivial

theorem cancelLesson_keeps (db : PushDb) : KeepsEvents setting session cancelLesson db := by
  apply call_keeps (always_settled session) trivial
  · intro now _ good answer
    split
    · exact (aside_same setting .cancelSlot rfl).kept good
    · exact kept_refl good
  · intro now _ _ answer
    split
    · exact aside_keeps (fun _ => Or.inr ⟨_, rfl, rfl⟩) done_keeps
    · trivial

theorem reviveBlockedIntents_keeps (db : PushDb) :
    KeepsEvents setting session reviveBlockedIntents db := by
  apply aside_keeps _ done_keeps
  intro now
  split
  · exact Or.inr ⟨_, rfl, rfl⟩
  · exact Or.inl rfl

end Pushing

theorem pushRequest_keeps (request : PushRequest) (db : PushDb) :
    KeepsEvents setting session (request.program setting session) db := by
  cases request with
  | cancel => exact Pushing.cancelLesson_keeps db
  | drainPushJobs => exact Pushing.pushWorker_keeps db
  | drainIntents => exact Pushing.intentWorker_keeps db
  | reviveBlockedIntents => exact Pushing.reviveBlockedIntents_keeps db
  | enqueueDelete =>
    exact Pushing.aside_keeps (fun _ => Or.inr ⟨_, rfl, rfl⟩) Pushing.done_keeps

theorem push_steady : Contract.Steady (pushContract setting) (pushStore setting) where
  drift change db good := (drift_kept change good : KeptEvents setting 0 db (db.drift change)).1
  close _ _ _ good := kept_refl good

theorem pushOpening_sound (status : SlotStatus) (deletes : List (Job PushKind))
    (intents : List (Job IntentKind)) (nextId : Nat) (syncState : Option SyncState) (now : Nat)
    (requests : Nat -> PushRequest) :
    Contract.Sound (pushContract setting) (pushStore setting) (fun _ _ => True)
      (pushOpening setting status deletes intents nextId syncState now requests) := by
  apply Contract.Sound.start
  · exact EventsHeld.of_none rfl rfl
  · intro session
    exact pushRequest_keeps (requests session) _

/-- In every run, once no job and no intent of the slot is pending or in progress, Google
holds no event of the slot but one that the slot names, with the calendar it is in. -/
theorem quiet_event_bound {status : SlotStatus} {deletes : List (Job PushKind)}
    {intents : List (Job IntentKind)} {nextId now : Nat} {syncState : Option SyncState}
    {requests : Nat -> PushRequest} {last : PushState}
    (run : Reaches (pushStore setting) (fun _ _ => True)
      (pushOpening setting status deletes intents nextId syncState now requests) last)
    (quiet : last.db.Quiet) :
    ∀ calendar, calendar ∈ last.db.events -> last.db.Bound setting calendar := by
  have sound : Contract.Sound (pushContract setting) (pushStore setting) (fun _ _ => True)
      (pushOpening setting status deletes intents nextId syncState now requests) :=
    pushOpening_sound status deletes intents nextId syncState now requests
  have good : EventsHeld setting last.db := (sound.reaches push_steady run).1.good
  intro calendar member
  rw [good.calendar calendar member]
  rcases good.held with empty | bound | working
  · rw [empty] at member
    cases member
  · exact bound
  · exact absurd working (finished_iff.mp quiet.1).2

/-- The first session creates the event, the second one cancels the lesson, the third one
works on the intent and the last one deletes the event. -/
private def cancelledMeanwhile : Nat -> PushRequest
  | 0 => .drainPushJobs
  | 1 => .cancel
  | 2 => .drainIntents
  | _ => .drainPushJobs

private def primaryCalendar : PushSetting := ⟨"lc0", "primary"⟩

/-- The event is deleted before it is created: it stays, and the slot names it. -/
theorem quiet_event_bound_late :
    ∃ last, Reaches (pushStore primaryCalendar) (fun _ _ => True)
      (pushOpening primaryCalendar .booked [] [] 1 (some .active) 0 cancelledMeanwhile) last ∧
      (last.db.slot.status = .cancelled ∧ last.db.events = ["primary"]) ∧
      ∀ calendar, calendar ∈ last.db.events -> last.db.Bound primaryCalendar calendar := by
  rcases exists_of_play (pushStore primaryCalendar)
    (pushOpening primaryCalendar .booked [] [] 1 (some .active) 0 cancelledMeanwhile)
    [.run 0 .createJob, .run 0 .ok, .run 1 .ok, .run 1 .ok, .run 2 (.job 1), .run 2 .ok,
      .run 2 .ok, .run 2 .ok, .run 2 .ok, .run 2 .ok, .run 3 (.job 2), .run 3 .ok, .run 3 .ok,
      .run 3 .ok, .run 0 .ok, .run 0 .ok]
    (fun db => (db.slot.status = .cancelled ∧ db.events = ["primary"]) ∧ db.Quiet)
    (by decide +kernel) with ⟨last, run, cancelled, quiet⟩
  exact ⟨last, run, cancelled, quiet_event_bound run quiet⟩

end Calendar
end LevelChannel
