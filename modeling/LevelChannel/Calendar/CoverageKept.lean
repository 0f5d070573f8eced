import LevelChannel.Calendar.Honesty

namespace LevelChannel

open Tables ReadCommitted

namespace Calendar
namespace Coverage

/-!
# What is on record, or due

A create push stays on record for good, whatever the workers make of it, and so does an
intent.  Between the commit that books or cancels a slot and the one that enqueues, a session
has it due.  So the invariant says of each slot that what it needs is on record or due with
somebody, and a step that meets the condition keeps that.
-/

/-! ## What writes do -/

section Records

variable {Key : Type} [DecidableEq Key]

def recorded (queue : JobQueue Key) (key : Key) : Bool :=
  queue.jobs.any fun job => job.key = key

theorem recorded_map {queue after : JobQueue Key} {set_ : Job Key -> Job Key}
    (same : ∀ job, (set_ job).key = job.key) (jobs : after.jobs = queue.jobs.map set_)
    (key : Key) : recorded after key = recorded queue key := by
  simp only [recorded, jobs, List.any_map, Function.comp_def, same]

theorem recorded_enqueue {rules : QueueRules} {queue : JobQueue Key} {now : Nat} {key : Key}
    {priority : Int} {other : Key} :
    recorded (queue.enqueue rules now key priority) other = true <->
      recorded queue other = true ∨ key = other := by
  have waiting : queue.jobs.any (Job.waitsFor key) = true -> recorded queue key = true := by
    intro waits
    rcases List.any_eq_true.mp waits with ⟨job, listed, is⟩
    exact List.any_eq_true.mpr ⟨job, listed, decide_eq_true (JobQueue.waitsFor_iff.mp is).2⟩
  rw [JobQueue.enqueue]
  split
  · next waits =>
    have there : recorded queue other = true ∨ key = other <-> recorded queue other = true := by
      constructor
      · rintro (is | rfl)
        · exact is
        · exact waiting waits
      · exact Or.inl
    rw [there]
    split
    · rw [@recorded_map _ _ queue _ (fun job =>
        if job.waitsFor key then
          { job with
            nextRunAt := min job.nextRunAt now
            priority := max job.priority priority }
        else job) _ rfl]
      intro job
      split <;> rfl
    · rfl
  · simp [recorded, Job.enqueued]

theorem recorded_step {rules : QueueRules} {queue after : JobQueue Key} {now : Nat}
    {event : QueueEvent Key} (stepped : queue.step rules now event = some after)
    (works : ∀ key priority, event ≠ .enqueue key priority) (key : Key) :
    recorded after key = recorded queue key := by
  cases event with
  | enqueue other priority => exact absurd rfl (works other priority)
  | claim worker id =>
    rw [JobQueue.step, JobQueue.claim] at stepped
    split at stepped
    · cases stepped
    · split at stepped
      · cases stepped
        refine recorded_map (fun job => ?_) rfl key
        split <;> rfl
      · cases stepped
  | finish worker outcome =>
    rw [JobQueue.step, JobQueue.finish] at stepped
    split at stepped
    · cases stepped
    · dsimp only at stepped
      split at stepped
      · cases stepped
        refine recorded_map (fun job => ?_) rfl key
        split
        · rw [QueueRules.settle]
          split <;> rfl
        · rfl
      · cases stepped
        rfl
  | cancelPending other =>
    cases stepped
    refine recorded_map (fun job => ?_) rfl key
    split <;> rfl

end Records

section Applied

variable {db : CalendarDb}

theorem onRecord_setQueue_self {name : QueueName} {queue : JobQueue name.JobKey}
    {key : name.JobKey} : (db.setQueue name queue).onRecord name key = recorded queue key := by
  simp only [CalendarDb.onRecord, CalendarDb.setQueue, recorded, Function.update_self]

theorem onRecord_setQueue_of_ne {name other : QueueName} {queue : JobQueue name.JobKey}
    {key : other.JobKey} (different : other ≠ name) :
    (db.setQueue name queue).onRecord other key = db.onRecord other key := by
  simp only [CalendarDb.onRecord, CalendarDb.setQueue, Function.update_of_ne different]

theorem onRecord_enqueue {name other : QueueName} {key : name.JobKey} {wanted : other.JobKey} :
    (db.enqueue name key).onRecord other wanted = true <-> db.onRecord other wanted = true ∨
        (⟨name, key⟩ : Sigma QueueName.JobKey) = ⟨other, wanted⟩ := by
  by_cases same : other = name
  · subst same
    rw [CalendarDb.enqueue, onRecord_setQueue_self, recorded_enqueue]
    simp only [Sigma.mk.injEq, heq_eq_eq, true_and]
    rfl
  · rw [CalendarDb.enqueue, onRecord_setQueue_of_ne same]
    constructor
    · exact Or.inl
    · exact fun either => either.resolve_right fun alike =>
        same (congrArg Sigma.fst alike).symm

theorem onRecord_work {name other : QueueName} {event : QueueEvent name.JobKey}
    {wanted : other.JobKey} (works : ∀ key priority, event ≠ .enqueue key priority) :
    (db.work name event).onRecord other wanted = db.onRecord other wanted := by
  rw [CalendarDb.work]
  split
  · rfl
  · next queue stepped =>
    by_cases same : other = name
    · subst same
      rw [onRecord_setQueue_self, recorded_step stepped works]
      rfl
    · exact onRecord_setQueue_of_ne same

/-- The writes of a route leave the integrations, the bindings and the clock. -/
structure SameElse (before after : CalendarDb) : Prop where
  integration : after.integration = before.integration
  external : after.external = before.external
  clock : after.lessons.clock = before.lessons.clock

theorem apply_same (write : Write) : SameElse db (db.apply write) := by
  cases write with
  | lesson write =>
    refine ⟨rfl, rfl, ?_⟩
    cases write with
    | allocation row =>
      simp only [CalendarDb.apply, Db.apply, Db.allocate]
      split <;> rfl
    | _ => rfl
  | createPush slotId teacherAccountId => exact ⟨rfl, rfl, rfl⟩
  | postCancelIntent slotId => exact ⟨rfl, rfl, rfl⟩

theorem applyAll_same (writes : List Write) : SameElse db (store.applyAll db writes) := by
  induction writes generalizing db with
  | nil => exact ⟨rfl, rfl, rfl⟩
  | cons write writes extend =>
    have one : SameElse db (store.apply db write) := apply_same write
    have rest := @extend (store.apply db write)
    exact ⟨rest.integration.trans one.integration, rest.external.trans one.external,
      rest.clock.trans one.clock⟩

def Write.entry : Write -> Option (Sigma QueueName.JobKey)
  | .lesson _ => none
  | .createPush slotId _ => some ⟨.push, (slotId, .create)⟩
  | .postCancelIntent slotId => some ⟨.intent, (slotId, .postCancelPush)⟩

theorem onRecord_applyAll {writes : List Write} {name : QueueName} {key : name.JobKey} :
    (store.applyAll db writes).onRecord name key = true <-> db.onRecord name key = true ∨
        ∃ write, write ∈ writes ∧ write.entry = some ⟨name, key⟩ := by
  induction writes generalizing db with
  | nil => simp
  | cons write writes extend =>
    have one : (store.apply db write).onRecord name key = true <->
        db.onRecord name key = true ∨ write.entry = some ⟨name, key⟩ := by
      cases write with
      | lesson write =>
        simp only [Write.entry, reduceCtorEq, or_false]
        rfl
      | createPush slotId teacherAccountId =>
        rw [Write.entry, Option.some.injEq]
        exact onRecord_enqueue
      | postCancelIntent slotId =>
        rw [Write.entry, Option.some.injEq]
        exact onRecord_enqueue
    rw [Store.applyAll_cons, extend, one]
    simp only [List.mem_cons, exists_eq_or_imp, or_assoc]

theorem slots_apply (write : Write) : (db.apply write).lessons.slots =
    (write.slotChange.elim db.lessons.slots fun change =>
      change.apply LessonSlot.id db.lessons.slots) := by
  cases write with
  | lesson write =>
    cases write with
    | allocation row =>
      simp only [CalendarDb.apply, Db.apply, Db.allocate]
      split <;> rfl
    | _ => rfl
  | createPush slotId teacherAccountId => rfl
  | postCancelIntent slotId => rfl

theorem mem_slots_applyAll {writes : List Write} {slot : LessonSlot}
    (listed : slot ∈ (store.applyAll db writes).lessons.slots) :
    slot ∈ db.lessons.slots ∨ ∃ change, change ∈ writes.filterMap Write.slotChange ∧
      (change = .insert slot ∨ change = .replace slot) := by
  induction writes generalizing db with
  | nil => exact Or.inl listed
  | cons write writes extend =>
    rcases extend listed with before | ⟨change, written, is⟩
    · have there : slot ∈ (db.apply write).lessons.slots := before
      rw [slots_apply] at there
      cases changes : write.slotChange with
      | none =>
        rw [changes] at there
        exact Or.inl there
      | some change =>
        rw [changes] at there
        have head : change ∈ (write :: writes).filterMap Write.slotChange :=
          List.mem_filterMap.mpr ⟨write, List.mem_cons_self, changes⟩
        cases change with
        | insert row =>
          rcases (mem_insert LessonSlot.id).mp there with old | rfl
          · exact Or.inl old
          · exact Or.inr ⟨_, head, Or.inl rfl⟩
        | replace row =>
          rcases mem_replace there with rfl | ⟨old, -⟩
          · exact Or.inr ⟨_, head, Or.inr rfl⟩
          · exact Or.inl old
        | delete row => exact Or.inl (mem_delete.mp there).1
    · refine Or.inr ⟨change, ?_, is⟩
      rcases List.mem_filterMap.mp written with ⟨other, member, same⟩
      exact List.mem_filterMap.mpr ⟨other, List.mem_cons_of_mem _ member, same⟩

theorem rewritten_applyAll {writes : List Write} {ok : LessonSlot -> Prop} {id : RowId}
    (keyed : ∀ row, ok row -> row.id = id)
    (all : ∀ change, change ∈ writes.filterMap Write.slotChange ->
      ∃ row, change = .replace row ∧ ok row)
    (either : (∃ row, Change.replace row ∈ writes.filterMap Write.slotChange) ∨
      ∀ slot, slot ∈ db.lessons.slots -> slot.id = id -> ok slot) :
    ∀ slot, slot ∈ (store.applyAll db writes).lessons.slots -> slot.id = id -> ok slot := by
  induction writes generalizing db with
  | nil =>
    rcases either with ⟨row, none_written⟩ | held
    · cases none_written
    · exact held
  | cons write writes extend =>
    rw [Store.applyAll_cons]
    have rest : ∀ change, change ∈ writes.filterMap Write.slotChange ->
        ∃ row, change = .replace row ∧ ok row := by
      intro change listed
      rcases List.mem_filterMap.mp listed with ⟨other, member, same⟩
      exact all change (List.mem_filterMap.mpr ⟨other, List.mem_cons_of_mem _ member, same⟩)
    apply extend rest
    cases changes : write.slotChange with
    | none =>
      rcases either with ⟨row, listed⟩ | held
      · left
        rw [List.filterMap_cons_none changes] at listed
        exact ⟨row, listed⟩
      · right
        intro slot there
        have before : slot ∈ (db.apply write).lessons.slots := there
        rw [slots_apply, changes] at before
        exact held slot before
    | some change =>
      right
      have head : change ∈ (write :: writes).filterMap Write.slotChange :=
        List.mem_filterMap.mpr ⟨write, List.mem_cons_self, changes⟩
      rcases all change head with ⟨row, rfl, fine⟩
      intro slot there same
      have before : slot ∈ (db.apply write).lessons.slots := there
      rw [slots_apply, changes] at before
      rcases mem_replace before with rfl | ⟨-, other⟩
      · exact fine
      · exact absurd (same.trans (keyed row fine).symm) other

end Applied

/-- The invariant, for a state of the tables and what the sessions have still to enqueue. -/
structure Kept (db : CalendarDb) (owed : Nat -> Option Due) : Prop where
  writable : ∀ teacherAccountId, Connected db teacherAccountId -> Wanted db teacherAccountId
  booked : ∀ slot, slot ∈ db.lessons.slots -> slot.status = .booked ->
    db.lessons.clock < slot.startAt -> Connected db slot.teacherAccountId ->
      db.onRecord .push (slot.id, .create) = true ∨
        ∃ session, owed session = some (.push slot.id slot.teacherAccountId)
  bound : ∀ id, (db.external id).isSome -> db.onRecord .push (id, .create) = true
  cancelled : ∀ slot, slot ∈ db.lessons.slots -> slot.status = .cancelled ->
    (db.onRecord .push (slot.id, .create) = true ∨
      ∃ session teacherAccountId, owed session = some (.push slot.id teacherAccountId)) ->
      DeleteOnRecord db slot.id ∨ ∃ session, owed session = some (.intent slot.id)

def Paid (before after : CalendarDb) : Due -> Prop
  | .push slotId teacherAccountId =>
    after.onRecord .push (slotId, .create) = true ∨ ¬ Wanted before teacherAccountId
  | .intent slotId => after.onRecord .intent (slotId, .postCancelPush) = true

def WasBooked (before : CalendarDb) (slot : LessonSlot) : Prop :=
  ∃ old, old ∈ before.lessons.slots ∧ old.id = slot.id ∧ old.status = .booked ∧
    old.teacherAccountId = slot.teacherAccountId ∧ old.startAt = slot.startAt

def NeedsNoDelete (before : CalendarDb) (owed : Nat -> Option Due) (slot : LessonSlot) : Prop :=
  (∃ old, old ∈ before.lessons.slots ∧ old.id = slot.id ∧ old.status = .cancelled) ∨
    (before.onRecord .push (slot.id, .create) = false ∧
      ∀ session teacherAccountId, owed session ≠ some (.push slot.id teacherAccountId))

/-- What a step may do. -/
structure Moves (before : CalendarDb) (owed : Nat -> Option Due) (after : CalendarDb)
    (owing : Nat -> Option Due) : Prop where
  clock : before.lessons.clock ≤ after.lessons.clock
  connected : ∀ teacherAccountId, Connected after teacherAccountId ->
    Connected before teacherAccountId ∧ Wanted after teacherAccountId
  record : ∀ name (key : name.JobKey), before.onRecord name key = true ->
    after.onRecord name key = true
  entered : ∀ id, after.onRecord .push (id, .create) = true ->
    before.onRecord .push (id, .create) = true ∨
      ∃ session teacherAccountId, owed session = some (.push id teacherAccountId)
  bound : ∀ id, (after.external id).isSome ->
    (before.external id).isSome ∨ after.onRecord .push (id, .create) = true
  paid : ∀ session due, owed session = some due ->
    owing session = some due ∨ Paid before after due
  raised : ∀ session id teacherAccountId, owing session = some (.push id teacherAccountId) ->
    (∃ other another, owed other = some (.push id another)) ∨
      ∀ slot, slot ∈ after.lessons.slots -> slot.id = id -> slot.status ≠ .cancelled
  booked : ∀ slot, slot ∈ after.lessons.slots -> slot ∉ before.lessons.slots ->
    slot.status = .booked -> after.lessons.clock < slot.startAt ->
      Connected before slot.teacherAccountId ->
        (∃ session, owing session = some (.push slot.id slot.teacherAccountId)) ∨
          WasBooked before slot
  cancelled : ∀ slot, slot ∈ after.lessons.slots -> slot ∉ before.lessons.slots ->
    slot.status = .cancelled ->
      (∃ session, owing session = some (.intent slot.id)) ∨ NeedsNoDelete before owed slot

section Step

variable {before after : CalendarDb} {owed owing : Nat -> Option Due}

theorem DeleteOnRecord.mono (moves : Moves before owed after owing) {id : RowId}
    (there : DeleteOnRecord before id) : DeleteOnRecord after id :=
  there.imp (moves.record .push _) (moves.record .intent _)

theorem Kept.stays_booked (kept : Kept before owed) (moves : Moves before owed after owing)
    {slot old : LessonSlot} (listed : old ∈ before.lessons.slots) (same : old.id = slot.id)
    (status : old.status = .booked) (teacher : old.teacherAccountId = slot.teacherAccountId)
    (start : old.startAt = slot.startAt) (future : after.lessons.clock < slot.startAt)
    (connected : Connected after slot.teacherAccountId) :
    after.onRecord .push (slot.id, .create) = true ∨
      ∃ session, owing session = some (.push slot.id slot.teacherAccountId) := by
  have earlier := (moves.connected _ connected).1
  rcases kept.booked old listed status
      (start ▸ Nat.lt_of_le_of_lt moves.clock future) (teacher ▸ earlier) with
    there | ⟨session, owes⟩
  · rw [same] at there
    exact Or.inl (moves.record .push _ there)
  · rw [same, teacher] at owes
    rcases moves.paid session _ owes with still | entered | unwanted
    · exact Or.inr ⟨session, still⟩
    · exact Or.inl entered
    · exact absurd (kept.writable _ earlier) unwanted

theorem Kept.stays_cancelled (kept : Kept before owed) (moves : Moves before owed after owing)
    {old : LessonSlot} (listed : old ∈ before.lessons.slots) (status : old.status = .cancelled)
    (pushed : before.onRecord .push (old.id, .create) = true ∨
      ∃ session teacherAccountId, owed session = some (.push old.id teacherAccountId)) :
    DeleteOnRecord after old.id ∨ ∃ session, owing session = some (.intent old.id) := by
  rcases kept.cancelled old listed status pushed with there | ⟨session, owes⟩
  · exact Or.inl (there.mono moves)
  · rcases moves.paid session _ owes with still | entered
    · exact Or.inr ⟨session, still⟩
    · exact Or.inl (Or.inr entered)

theorem Kept.moves (kept : Kept before owed) (moves : Moves before owed after owing) :
    Kept after owing where
  writable teacherAccountId connected := (moves.connected _ connected).2
  booked slot listed status future connected := by
    by_cases old : slot ∈ before.lessons.slots
    · exact kept.stays_booked moves old rfl status rfl rfl future connected
    · rcases moves.booked slot listed old status future (moves.connected _ connected).1 with
        raised | ⟨was, listedWas, same, booked, teacher, start⟩
      · exact Or.inr raised
      · exact kept.stays_booked moves listedWas same booked teacher start future connected
  bound id held := by
    rcases moves.bound id held with was | there
    · exact moves.record .push _ (kept.bound id was)
    · exact there
  cancelled slot listed status pushed := by
    -- a cancelled slot has its push from before, or none
    have earlier : before.onRecord .push (slot.id, .create) = true ∨
        ∃ session teacherAccountId,
          owed session = some (.push slot.id teacherAccountId) := by
      rcases pushed with there | ⟨session, teacherAccountId, owes⟩
      · exact moves.entered slot.id there
      · rcases moves.raised session slot.id teacherAccountId owes with was | never
        · exact Or.inr was
        · exact absurd status (never slot listed rfl)
    by_cases old : slot ∈ before.lessons.slots
    · exact kept.stays_cancelled moves old status earlier
    · rcases moves.cancelled slot listed old status with
        raised | ⟨was, listedWas, same, gone⟩ | ⟨absent, none_owes⟩
      · exact Or.inr raised
      · rw [← same] at earlier ⊢
        exact kept.stays_cancelled moves listedWas gone earlier
      · rcases earlier with there | ⟨session, teacherAccountId, owes⟩
        · rw [absent] at there
          cases there
        · exact absurd owes (none_owes session teacherAccountId)

end Step

/-! ## Runs -/

def Request.pledge : Request -> Option Due
  | .book _ slotId _ teacherAccountId => some (.push slotId teacherAccountId)
  | .cancel slotId _ _ _ => some (.intent slotId)
  | _ => none

def pledgeOf (requests : List Request) (session : Nat) : Option Due :=
  (requests[session]?).bind Request.pledge

/-- A change of a slot that leaves nothing to enqueue: no lesson to come of a connected
teacher is newly booked, and no slot with a create push, or with one under way, is newly
cancelled. -/
def Quiet (state : State) (change : Change LessonSlot) : Prop :=
  ∀ row, (change = .insert row ∨ change = .replace row) ->
    (row.status = .booked -> state.db.lessons.clock < row.startAt ->
      Connected state.db row.teacherAccountId -> WasBooked state.db row) ∧
    (row.status = .cancelled -> NeedsNoDelete state.db (dueOf state) row)

/-- The condition on a step.  No session fails or stops while it has something to enqueue; no
teacher connects, and a connected one keeps a calendar to write to; and slots are only booked
and cancelled by the routes that enqueue, which hear that they have committed. -/
structure Heeded (requests : List Request) (state : State) (event : Event) : Prop where
  finishes : ∀ session, (event = .fail session ∨ event = .stop session) ->
    dueOf state session = none
  connects : ∀ teacherAccountId row, event = .drift (.integration teacherAccountId (some row)) ->
    connected row = true -> Connected state.db teacherAccountId ∧ writable row = true
  told : (∀ session choice, event = .run session choice ->
    pledgeOf requests session = none) ->
      ∀ change, change ∈ (state.applied event).filterMap Write.slotChange ->
        Quiet state change

def AllHonest (requests : List Request) (state : State) : Prop :=
  state.Each fun session _ pending program => Honest (pledgeOf requests session) pending program

section Runs

variable {requests : List Request} {state after : State}

theorem dueOf_congr {other : Nat} (same : after.sessions other = state.sessions other) :
    dueOf after other = dueOf state other := by
  rw [dueOf, dueOf, same]

theorem moves_of_session {session : Nat} (kept : Kept state.db (dueOf state))
    (else_ : SameElse state.db after.db) (queues : after.db.queues = state.db.queues)
    (slots : after.db.lessons.slots = state.db.lessons.slots)
    (others : ∀ other, other ≠ session -> after.sessions other = state.sessions other)
    (paid : ∀ due, dueOf state session = some due -> dueOf after session = some due ∨
      ∃ slotId teacherAccountId, due = .push slotId teacherAccountId ∧
        ¬ Wanted state.db teacherAccountId)
    (raised : ∀ due, dueOf after session = some due -> dueOf state session = some due) :
    Moves state.db (dueOf state) after.db (dueOf after) where
  clock := Nat.le_of_eq else_.clock.symm
  connected teacherAccountId connected := by
    rw [Connected, else_.integration] at connected
    rw [Wanted, else_.integration]
    exact ⟨connected, kept.writable _ connected⟩
  record name key there := by
    rwa [CalendarDb.onRecord, queues]
  entered id there := by
    rw [CalendarDb.onRecord, queues] at there
    exact Or.inl there
  bound id held := Or.inl (else_.external ▸ held)
  paid other due owes := by
    by_cases same : other = session
    · subst same
      rcases paid due owes with still | ⟨slotId, teacherAccountId, rfl, unwanted⟩
      · exact Or.inl still
      · exact Or.inr (Or.inr unwanted)
    · rw [dueOf_congr (others other same)]
      exact Or.inl owes
  raised other id teacherAccountId owes := by
    refine Or.inl ⟨other, teacherAccountId, ?_⟩
    by_cases same : other = session
    · subst same
      exact raised _ owes
    · rwa [dueOf_congr (others other same)] at owes
  booked slot listed new := absurd (slots ▸ listed) new
  cancelled slot listed new := absurd (slots ▸ listed) new

theorem entry_of_push {write : Write} {id : RowId}
    (entry : write.entry = some ⟨.push, (id, .create)⟩) :
    ∃ teacherAccountId, write.due = some (.push id teacherAccountId) := by
  cases write with
  | lesson write => cases entry
  | createPush slotId teacherAccountId =>
    simp only [Write.entry, Option.some.injEq, Sigma.mk.injEq, heq_eq_eq, true_and,
      Prod.mk.injEq, and_true] at entry
    exact ⟨teacherAccountId, by rw [Write.due, entry]⟩
  | postCancelIntent slotId => simp [Write.entry] at entry

theorem paid_of_write {db : CalendarDb} {writes : List Write} {write : Write} {due : Due}
    (listed : write ∈ writes) (is : write.due = some due) :
    Paid db (store.applyAll db writes) due := by
  cases write with
  | lesson write => cases is
  | createPush slotId teacherAccountId =>
    cases is
    exact Or.inl (onRecord_applyAll.mpr (Or.inr ⟨_, listed, rfl⟩))
  | postCancelIntent slotId =>
    cases is
    exact onRecord_applyAll.mpr (Or.inr ⟨_, listed, rfl⟩)

theorem moves_of_applied {session : Nat} {writes : List Write} (kept : Kept state.db (dueOf state))
    (db : after.db = store.applyAll state.db writes)
    (others : ∀ other, other ≠ session -> after.sessions other = state.sessions other)
    (single : ∀ write, write ∈ writes -> write.due = none ∨ write.due = dueOf state session)
    (paid : ∀ due, dueOf state session = some due -> ∃ write, write ∈ writes ∧ write.due = some due)
    (leaves : (dueOf after session = none ∧
        ∀ change, change ∈ writes.filterMap Write.slotChange -> Quiet state change) ∨
      ∃ pledge, Announced (some pledge) writes (dueOf after session)) :
    Moves state.db (dueOf state) after.db (dueOf after) := by
  have else_ : SameElse state.db after.db := db ▸ applyAll_same writes
  exact {
    clock := Nat.le_of_eq else_.clock.symm
    connected := by
      intro teacherAccountId connected
      rw [Connected, else_.integration] at connected
      rw [Wanted, else_.integration]
      exact ⟨connected, kept.writable _ connected⟩
    record := by
      intro name key there
      rw [db]
      exact onRecord_applyAll.mpr (Or.inl there)
    entered := by
      intro id there
      rw [db] at there
      rcases onRecord_applyAll.mp there with was | ⟨write, listed, entry⟩
      · exact Or.inl was
      · rcases entry_of_push entry with ⟨teacherAccountId, is⟩
        rcases single write listed with nothing | same
        · rw [nothing] at is
          cases is
        · exact Or.inr ⟨session, teacherAccountId, same.symm.trans is⟩
    bound := fun id held => Or.inl (else_.external ▸ held)
    paid := by
      intro other due owes
      by_cases same : other = session
      · subst same
        rcases paid due owes with ⟨write, listed, is⟩
        rw [db]
        exact Or.inr (paid_of_write listed is)
      · rw [dueOf_congr (others other same)]
        exact Or.inl owes
    raised := by
      intro other id teacherAccountId owes
      by_cases same : other = session
      · subst same
        rcases leaves with ⟨nothing, -⟩ | ⟨pledge, ⟨nothing, -⟩ | ⟨is, rewrites⟩⟩
        · rw [nothing] at owes
          cases owes
        · rw [nothing] at owes
          cases owes
        · rw [is, Option.some.injEq] at owes
          subst owes
          refine Or.inr ?_
          rw [db]
          intro slot listed same
          have keyed : ∀ row, Due.Leaves (.push id teacherAccountId) row -> row.id = id :=
            fun row is => is.1
          have left_ := rewritten_applyAll keyed rewrites.2 (Or.inl rewrites.1) slot listed same
          rw [left_.2.2]
          intro impossible
          cases impossible
      · rw [dueOf_congr (others other same)] at owes
        exact Or.inl ⟨other, teacherAccountId, owes⟩
    booked := by
      intro slot listed new status future connected
      rw [else_.clock] at future
      rw [db] at listed
      rcases (mem_slots_applyAll listed).resolve_left new with ⟨change, written, is⟩
      rcases leaves with ⟨-, quiet⟩ | ⟨pledge, ⟨-, nothing⟩ | ⟨owes, rewrites⟩⟩
      · exact Or.inr ((quiet change written slot is).1 status future connected)
      · rw [nothing] at written
        cases written
      · rcases rewrites.2 change written with ⟨row, rfl, left_⟩
        rcases is with impossible | same
        · cases impossible
        · cases same
          cases pledge with
          | push slotId teacherAccountId =>
            exact Or.inl ⟨session, by rw [owes, left_.1, left_.2.1]⟩
          | intent slotId =>
            rw [left_.2] at status
            cases status
    cancelled := by
      intro slot listed new status
      rw [db] at listed
      rcases (mem_slots_applyAll listed).resolve_left new with ⟨change, written, is⟩
      rcases leaves with ⟨-, quiet⟩ | ⟨pledge, ⟨-, nothing⟩ | ⟨owes, rewrites⟩⟩
      · exact Or.inr ((quiet change written slot is).2 status)
      · rw [nothing] at written
        cases written
      · rcases rewrites.2 change written with ⟨row, rfl, left_⟩
        rcases is with impossible | same
        · cases impossible
        · cases same
          cases pledge with
          | push slotId teacherAccountId =>
            rw [left_.2.2] at status
            cases status
          | intent slotId => exact Or.inl ⟨session, by rw [owes, left_.1]⟩ }

end Runs

section Runs

variable {requests : List Request} {state after : State}

theorem moves_of_else {now : CalendarDb} (kept : Kept state.db (dueOf state))
    (else_ : SameElse state.db now) (slots : now.lessons.slots = state.db.lessons.slots)
    (record : ∀ name (key : name.JobKey), state.db.onRecord name key = true ->
      now.onRecord name key = true) (entered : ∀ id, now.onRecord .push (id, .create) = true ->
      state.db.onRecord .push (id, .create) = true) :
    Moves state.db (dueOf state) now (dueOf state) where
  clock := Nat.le_of_eq else_.clock.symm
  connected teacherAccountId connected := by
    rw [Connected, else_.integration] at connected
    rw [Wanted, else_.integration]
    exact ⟨connected, kept.writable _ connected⟩
  record := record
  entered id there := Or.inl (entered id there)
  bound id held := Or.inl (else_.external ▸ held)
  paid _ _ owes := Or.inl owes
  raised session id teacherAccountId owes := Or.inl ⟨session, teacherAccountId, owes⟩
  booked slot listed new := absurd (slots ▸ listed) new
  cancelled slot listed new := absurd (slots ▸ listed) new

theorem moves_of_nothing (kept : Kept state.db (dueOf state)) :
    Moves state.db (dueOf state) state.db (dueOf state) :=
  moves_of_else kept ⟨rfl, rfl, rfl⟩ rfl (fun _ _ there => there) fun _ there => there

theorem moves_of_work (kept : Kept state.db (dueOf state)) (name : QueueName)
    (event : QueueEvent name.JobKey) (works : ∀ key priority, event ≠ .enqueue key priority) :
    Moves state.db (dueOf state) (state.db.work name event) (dueOf state) := by
  have tables : SameElse state.db (state.db.work name event) ∧
      (state.db.work name event).lessons.slots = state.db.lessons.slots := by
    rw [CalendarDb.work]
    split
    · exact ⟨⟨rfl, rfl, rfl⟩, rfl⟩
    · exact ⟨⟨rfl, rfl, rfl⟩, rfl⟩
  exact moves_of_else kept tables.1 tables.2
    (fun other key there => by rwa [onRecord_work works])
    (fun id there => by rwa [onRecord_work works] at there)

theorem slots_of_drift {lessons : Db} {change : LevelChannel.Drift} {slot : LessonSlot}
    (listed : slot ∈ (lessons.drift change).slots) (new : slot ∉ lessons.slots) :
    slot.status = .open ∨ slot.status = .personalEvent := by
  cases change with
  | slot row =>
    rw [Db.drift] at listed
    split at listed
    · next fresh =>
      rcases (mem_insert LessonSlot.id).mp listed with old | rfl
      · exact absurd old new
      · simp only [Bool.and_eq_true, Bool.or_eq_true, decide_eq_true_eq] at fresh
        exact fresh.2.imp_right And.left
    · exact absurd listed new
  | allocation row =>
    rw [Db.drift, Db.allocate] at listed
    split at listed
    · exact absurd listed new
    · exact absurd listed new
  | _ => exact absurd listed new

theorem moves_of_lessonDrift (kept : Kept state.db (dueOf state)) (change : LevelChannel.Drift) :
    Moves state.db (dueOf state) (state.db.drift (.lesson change)) (dueOf state) where
  clock := (drift_untouched change state.db.lessons).clock
  connected teacherAccountId connected := ⟨connected, kept.writable teacherAccountId connected⟩
  record _ _ there := there
  entered _ there := Or.inl there
  bound _ held := Or.inl held
  paid _ _ owes := Or.inl owes
  raised session id teacherAccountId owes := Or.inl ⟨session, teacherAccountId, owes⟩
  booked slot listed new status := by
    rcases slots_of_drift listed new with is | is
    · rw [is] at status
      cases status
    · rw [is] at status
      cases status
  cancelled slot listed new status := by
    rcases slots_of_drift listed new with is | is
    · rw [is] at status
      cases status
    · rw [is] at status
      cases status

theorem moves_of_integration {teacherAccountId : RowId} {row : Option Integration}
    (kept : Kept state.db (dueOf state))
    (heeded : Heeded requests state (.drift (.integration teacherAccountId row))) :
    Moves state.db (dueOf state) (state.db.drift (.integration teacherAccountId row))
      (dueOf state) :=
  { moves_of_nothing kept with
    connected := by
      intro other connected
      by_cases same : other = teacherAccountId
      · subst same
        cases row with
        | none => simp [Connected, CalendarDb.drift] at connected
        | some row =>
          simp only [Connected, CalendarDb.drift, Function.update_self, Option.any_some]
            at connected
          rcases heeded.connects other row rfl connected with ⟨was, writes⟩
          refine ⟨was, ?_⟩
          simp only [Wanted, CalendarDb.drift, Function.update_self, Option.any_some, connected,
            writes, Bool.and_self]
      · have was : Connected state.db other := by
          simpa only [Connected, CalendarDb.drift, Function.update_of_ne same] using connected
        refine ⟨was, ?_⟩
        simpa only [Wanted, CalendarDb.drift, Function.update_of_ne same] using
          kept.writable other was }

theorem moves_of_drift {change : Drift} (kept : Kept state.db (dueOf state))
    (heeded : Heeded requests state (.drift change)) :
    Moves state.db (dueOf state) (state.db.drift change) (dueOf state) := by
  cases change with
  | lesson change => exact moves_of_lessonDrift kept change
  | claim name worker id =>
    exact moves_of_work kept name (.claim worker id) fun _ _ impossible => nomatch impossible
  | finish name worker outcome =>
    exact moves_of_work kept name (.finish worker outcome) fun _ _ impossible => nomatch impossible
  | cancelPending name key =>
    exact moves_of_work kept name (.cancelPending key) fun _ _ impossible => nomatch impossible
  | deletePush slotId =>
    refine moves_of_else kept ⟨rfl, rfl, rfl⟩ rfl
      (fun _ _ there => onRecord_enqueue.mpr (Or.inl there)) ?_
    intro id there
    rcases onRecord_enqueue.mp there with was | same
    · exact was
    · simp at same
  | bind slotId eventId =>
    rw [CalendarDb.drift]
    split
    · next there =>
      exact { moves_of_nothing kept with
        bound := by
          intro id held
          by_cases same : id = slotId
          · subst same
            exact Or.inr there
          · simp only [Function.update_of_ne same] at held
            exact Or.inl held }
    · exact moves_of_nothing kept
  | unbind slotId =>
    exact { moves_of_nothing kept with
      bound := by
        intro id held
        by_cases same : id = slotId
        · subst same
          simp [CalendarDb.drift] at held
        · simp only [CalendarDb.drift, Function.update_of_ne same] at held
          exact Or.inl held }
  | integration teacherAccountId row => exact moves_of_integration kept heeded

theorem moves_of_ended {program : Program} {session : Nat} {db : CalendarDb}
    (kept : Kept state.db (dueOf state)) (else_ : SameElse state.db db)
    (queues : db.queues = state.db.queues) (slots : db.lessons.slots = state.db.lessons.slots)
    (before : dueOf state session = none) (nothing : due [] program = none) :
    Moves state.db (dueOf state) (State.release { state with db := db } session program).db
      (dueOf (State.release { state with db := db } session program)) := by
  apply @moves_of_session state _ session kept
  · exact else_
  · exact queues
  · exact slots
  · exact fun other different => State.release_sessions_of_ne _ different _
  · intro due owes
    rw [before] at owes
    cases owes
  · intro due owes
    rw [dueOf, State.release_sessions_self] at owes
    rw [nothing] at owes
    cases owes

theorem moves_of_answered {session : Nat} {label : Label} {locks : List Lock}
    {onError : Program} {writes : CalendarDb -> CalendarDb -> List Write}
    {next : CalendarDb -> CalendarDb -> Program} (kept : Kept state.db (dueOf state))
    (honest : AllHonest requests state)
    (program : (state.sessions session).program = .statement label locks onError writes next) :
    Moves state.db (dueOf state) state.db (dueOf ((state.grant session locks).resume session
        (next state.db (state.view store session))
        ((state.sessions session).pending ++ writes state.db (state.view store session)))) := by
  have here := honest session
  rw [program] at here
  have pays := (here.2 state.db (state.view store session)).2
  have owed : dueOf state session = label.due := by rw [dueOf, program]; rfl
  apply @moves_of_session state ((state.grant session locks).resume session
    (next state.db (state.view store session))
    ((state.sessions session).pending ++ writes state.db (state.view store session))) session kept
  · exact ⟨rfl, rfl, rfl⟩
  · rfl
  · rfl
  · exact fun other different => State.resume_sessions_of_ne _ different _ _
  · intro due owes
    rw [dueOf, State.resume_sessions_self]
    rw [owed] at owes
    cases label with
    | readIntegration slotId teacherAccountId =>
      cases owes
      rcases pays with same | ⟨nothing, unwanted⟩
      · exact Or.inl same
      · exact Or.inr ⟨slotId, teacherAccountId, rfl, unwanted⟩
    | lesson label => cases owes
    | enqueueCreate slotId teacherAccountId => exact Or.inl (pays.trans owes)
    | insertIntent slotId => exact Or.inl (pays.trans owes)
  · intro due owes
    rw [dueOf, State.resume_sessions_self] at owes
    rw [owed]
    cases label with
    | readIntegration slotId teacherAccountId =>
      rcases pays with same | ⟨nothing, -⟩
      · exact same.symm.trans owes
      · have impossible := nothing.symm.trans owes
        cases impossible
    | lesson label => exact pays.symm.trans owes
    | enqueueCreate slotId teacherAccountId => exact pays.symm.trans owes
    | insertIntent slotId => exact pays.symm.trans owes

theorem moves_of_committed {session : Nat} {onError next after : Program}
    (kept : Kept state.db (dueOf state))
    (program : (state.sessions session).program = .commit onError next)
    (single : ∀ write, write ∈ (state.sessions session).pending ->
      write.due = none ∨ write.due = (state.sessions session).pending.findSome? Write.due)
    (leaves : (due [] after = none ∧ ∀ change,
        change ∈ (state.sessions session).pending.filterMap Write.slotChange ->
          Quiet state change) ∨
      ∃ pledge, Announced (some pledge) (state.sessions session).pending (due [] after)) :
    Moves state.db (dueOf state)
      (State.release { state with db := state.view store session } session after).db
      (dueOf (State.release { state with db := state.view store session } session after)) := by
  have owed : dueOf state session = (state.sessions session).pending.findSome? Write.due := by
    rw [dueOf, program]
    rfl
  have owing : dueOf (State.release { state with db := state.view store session } session after)
      session = due [] after := by
    rw [dueOf, State.release_sessions_self]
  apply @moves_of_applied state _ session (state.sessions session).pending kept rfl
  · exact fun other different => State.release_sessions_of_ne _ different _
  · rw [owed]
    exact single
  · rw [owed]
    intro due owes
    rcases List.exists_of_findSome?_eq_some owes with ⟨write, listed, is⟩
    exact ⟨write, listed, is⟩
  · rw [owing]
    exact leaves

theorem step_moves {event : Event} (kept : Kept state.db (dueOf state))
    (honest : AllHonest requests state) (heeded : Heeded requests state event)
    (stepped : step store state event = some after) :
    Moves state.db (dueOf state) after.db (dueOf after) := by
  cases stepped_of_step stepped with
  | answered program admitted => exact moves_of_answered kept honest program
  | @committed session choice onError next program =>
    have here := honest session
    rw [program] at here
    rcases here with ⟨-, -, announced, single⟩
    refine moves_of_committed kept program single ?_
    cases pledge : pledgeOf requests session with
    | none =>
      rw [pledge] at announced
      refine Or.inl ⟨announced, ?_⟩
      have told := heeded.told (fun other answer is => by cases is; exact pledge)
      simpa only [State.applied, State.committing, program] using told
    | some promise =>
      rw [pledge] at announced
      exact Or.inr ⟨promise, announced⟩
  | @rolledBack session choice next program =>
    have here := honest session
    rw [program] at here
    exact moves_of_ended kept ⟨rfl, rfl, rfl⟩ rfl rfl (by rw [dueOf, program]; rfl) here.2
  | @called session choice label writes next program =>
    have here := honest session
    rw [program] at here
    rcases here with ⟨unpledged, here⟩
    rcases here state.db choice with ⟨-, nothing, plain⟩
    have owed : dueOf state session = none := by rw [dueOf, program]; rfl
    apply @moves_of_applied state _ session (writes state.db choice) kept rfl
    · exact fun other different => State.resume_sessions_of_ne _ different _ _
    · exact fun write listed => Or.inl (plain write listed)
    · intro due owes
      rw [owed] at owes
      cases owes
    · refine Or.inl ⟨?_, ?_⟩
      · rw [dueOf, State.resume_sessions_self]
        exact nothing
      · have told := heeded.told (fun other answer is => by cases is; exact unpledged)
        simpa only [State.applied, State.committing, State.calling, program] using told
  | @failed session label locks onError writes next program =>
    have here := honest session
    rw [program] at here
    exact moves_of_ended kept ⟨rfl, rfl, rfl⟩ rfl rfl (heeded.finishes session (Or.inl rfl)) here.1.2
  | @abandoned session onError next program =>
    have here := honest session
    rw [program] at here
    exact moves_of_ended kept ⟨rfl, rfl, rfl⟩ rfl rfl (heeded.finishes session (Or.inl rfl)) here.1.2
  | @unheard session onError next program =>
    have here := honest session
    rw [program] at here
    rcases here with ⟨⟨-, nothing⟩, -, -, single⟩
    refine moves_of_committed kept program single (Or.inl ⟨nothing, ?_⟩)
    have told := heeded.told (fun other answer is => by cases is)
    simpa only [State.applied, State.committing, program] using told
  | @stopped session =>
    exact moves_of_ended kept ⟨rfl, rfl, rfl⟩ rfl rfl (heeded.finishes session (Or.inr rfl)) rfl
  | @drifted change => exact moves_of_drift kept heeded

end Runs

/-- The tables before any route runs: complete, with calendars to write to, and every event
and every cancellation after a create push accounted for. -/
structure Prepared (db : CalendarDb) : Prop where
  complete : Complete db
  writable : ∀ teacherAccountId, Connected db teacherAccountId -> Wanted db teacherAccountId
  bound : ∀ id, (db.external id).isSome -> db.onRecord .push (id, .create) = true
  cancelled : ∀ slot, slot ∈ db.lessons.slots -> slot.status = .cancelled ->
    db.onRecord .push (slot.id, .create) = true -> DeleteOnRecord db slot.id

def ended : Program -> Bool
  | .done _ => true
  | .crashed => true
  | _ => false

def Idle (requests : List Request) (state : State) : Prop :=
  ∀ session, session < requests.length -> ended (state.sessions session).program = true

instance (requests : List Request) (state : State) : Decidable (Idle requests state) :=
  inferInstanceAs (Decidable (∀ session, session < requests.length -> _ = true))

section Runs

variable {db : CalendarDb} {requests : List Request} {last : State}

theorem due_of_ended {pending : List Write} {program : Program} (over_ : ended program = true) :
    due pending program = none := by
  cases program with
  | done reply => rfl
  | crashed => rfl
  | _ => cases over_

theorem bookTail_honest {pledge : Option Due} (teacherAccountId : RowId) (reply : Reply) :
    Honest pledge [] (.bookTail teacherAccountId reply) := by
  cases reply with
  | returned code rows =>
    cases rows with
    | nil => trivial
    | cons slotId rest => exact enqueueCreate_honest
  | _ => trivial

theorem cancelTail_honest {pledge : Option Due} (slotId : RowId) (reply : Reply) :
    Honest pledge [] (.cancelTail slotId reply) := by
  rw [Program.cancelTail]
  split
  · exact insertIntent_honest
  · trivial

-- unification would otherwise start to trim the reason
attribute [local irreducible] LevelChannel.Program.rescheduleSlotByTeacher in
theorem request_honest (session : Nat) (request : Request) :
    Honest request.pledge [] (request.program session) ∧
      due [] (request.program session) = none := by
  cases request with
  | book billingActive slotId learnerAccountId teacherAccountId =>
    have closes := bookSlot_closes billingActive slotId learnerAccountId teacherAccountId
    exact ⟨honest_of_closes (bookTail_honest teacherAccountId) closes, due_of_closes closes⟩
  | cancel slotId learnerAccountId reason envFallbackMinutes =>
    have closes := cancelLearnerSlot_closes slotId learnerAccountId reason envFallbackMinutes
    exact ⟨honest_of_closes (cancelTail_honest slotId) closes, due_of_closes closes⟩
  | assignDirect input => exact ⟨lesson_honest [] _, due_lesson [] _⟩
  | rescheduleByLearner slotId learnerAccountId newStartAt cancelWindowHours =>
    exact ⟨lesson_honest [] _, due_lesson [] _⟩
  | rescheduleByTeacher slotId teacherAccountId newStartAt reason =>
    exact ⟨lesson_honest [] _, due_lesson [] _⟩
  | cancelByTeacher slotId teacherAccountId reason =>
    exact ⟨lesson_honest [] _, due_lesson [] _⟩
  | cancelByAdmin slotId operatorAccountId reason =>
    exact ⟨lesson_honest [] _, due_lesson [] _⟩

theorem opening_honest (session : Nat) : Honest (pledgeOf requests session) []
        ((requests[session]?).elim .crashed (Request.program session)) ∧
      dueOf (opening db requests) session = none := by
  show _ ∧ due [] ((requests[session]?).elim .crashed (Request.program session)) = none
  rw [pledgeOf]
  cases requests[session]? with
  | none => exact ⟨trivial, rfl⟩
  | some request => exact request_honest session request

theorem kept_of_reaches (prepared : Prepared db)
    (reached : ReachesWhen store (Heeded requests) (opening db requests) last) :
    Kept last.db (dueOf last) := by
  have start : Kept (opening db requests).db (dueOf (opening db requests)) :=
    { writable := prepared.writable
      booked := by
        intro slot listed status future connected
        rcases prepared.complete.booked slot listed status future connected with held | there
        · exact Or.inl (prepared.bound slot.id held)
        · exact Or.inl there
      bound := prepared.bound
      cancelled := by
        intro slot listed status pushed
        rcases pushed with there | ⟨session, teacherAccountId, owes⟩
        · exact Or.inl (prepared.cancelled slot listed status there)
        · rw [(opening_honest session).2] at owes
          cases owes }
  have honest : AllHonest requests (opening db requests) :=
    fun session => (@opening_honest db requests session).1
  have step : ∀ middle event after, Reaches store (fun _ _ => True) (opening db requests)
        middle -> Kept middle.db (dueOf middle) -> Heeded requests middle event ->
      ReadCommitted.step store middle event = some after -> Kept after.db (dueOf after) := by
    intro middle event after before kept heeded stepped
    have here : AllHonest requests middle :=
      State.each_of_reaches (fun session => Honest.inherited (pledgeOf requests session)) honest
        before
    exact kept.moves (step_moves kept here heeded stepped)
  exact ReachesWhen.keeps step reached start

theorem crashed_of_reaches (reached : Reaches store (fun _ _ => True) (opening db requests) last)
    {session : Nat} (none_left : requests.length ≤ session) :
    (last.sessions session).program = .crashed := by
  have inherited : ∀ session, Inherited fun (_ : List Lock) (_ : List Write)
      (program : Program) => session < requests.length ∨ program = .crashed := by
    intro session
    constructor
    · exact Or.inr rfl
    · intro held pending label locks onError writes next either
      have known := either.resolve_right fun impossible => nomatch impossible
      exact ⟨Or.inl known, fun _ _ => Or.inl known⟩
    · intro held pending onError next either
      have known := either.resolve_right fun impossible => nomatch impossible
      exact ⟨Or.inl known, Or.inl known⟩
    · intro held pending next either
      exact Or.inl (either.resolve_right fun impossible => nomatch impossible)
    · intro held pending label writes next either committed choice
      exact Or.inl (either.resolve_right fun impossible => nomatch impossible)
  have start : State.Each (fun session _ _ (program : Program) =>
      session < requests.length ∨ program = .crashed) (opening db requests) := by
    intro other
    by_cases known : other < requests.length
    · exact Or.inl known
    · refine Or.inr ?_
      rw [opening, State.start]
      simp only [List.getElem?_eq_none (Nat.le_of_not_lt known), Option.elim_none]
  exact (State.each_of_reaches inherited start reached session).resolve_left
    (Nat.not_lt_of_le none_left)

/-- As long as slots are booked and cancelled by the routes that tell the calendar, and these
get to do so, the calendar knows everything once the routes are through. -/
theorem calendar_push_complete (prepared : Prepared db)
    (reached : ReachesWhen store (Heeded requests) (opening db requests) last)
    (idle : Idle requests last) : Complete last.db := by
  have kept := kept_of_reaches prepared reached
  have settled : ∀ session, dueOf last session = none := by
    intro session
    rcases Nat.lt_or_ge session requests.length with known | unknown
    · exact due_of_ended (idle session known)
    · rw [dueOf, crashed_of_reaches reached.reaches unknown]
      rfl
  constructor
  · intro slot listed status future connected
    rcases kept.booked slot listed status future connected with there | ⟨session, owes⟩
    · exact Or.inr there
    · rw [settled session] at owes
      cases owes
  · intro slot listed status held
    rcases kept.cancelled slot listed status (Or.inl (kept.bound slot.id held)) with
      there | ⟨session, owes⟩
    · exact there
    · rw [settled session] at owes
      cases owes

end Runs

def calendarDb (slots : List LessonSlot) : CalendarDb where
  lessons :=
    { Db.empty with
      slots := slots
      catalog :=
        { Catalog.empty with
          tariff := fun _ => some ⟨some (.seeded 7), 60, 100000, true, false, false⟩
          linked := fun _ _ => true
          paymentMethod := fun _ _ => .postpaid } }
  integration _ := some (.initialConnect ⟨"access", none, "calendar", 0⟩ [] (some "primary") "" 0)
  external _ := none
  queues _ := ⟨[], 0, fun _ => none, false⟩

theorem calendarDb_prepared {slots : List LessonSlot}
    (open_ : ∀ slot, slot ∈ slots -> slot.status = .open) : Prepared (calendarDb slots) where
  complete :=
    { booked := by
        intro slot listed status
        rw [open_ slot listed] at status
        cases status
      cancelled := by
        intro slot listed status
        rw [open_ slot listed] at status
        cases status }
  writable _ _ := rfl
  bound id held := by cases held
  cancelled slot listed status := by
    rw [open_ slot listed] at status
    cases status

def openHour : LessonSlot :=
  openSlot (.seeded 1) (.seeded 7) (7 * 3600000) 60 none 0

def bookedAndCancelled : List Request :=
  [.book false (.seeded 1) (.seeded 2) (.seeded 7), .cancel (.seeded 1) (.seeded 2) none 0]

def toldOnly (requests : List Request) (_ : State) : Event -> Bool
  | .run session _ => (pledgeOf requests session).isSome
  | _ => false

theorem toldOnly_sound (requests : List Request) (state : State) (event : Event)
    (met : toldOnly requests state event = true) : Heeded requests state event := by
  cases event with
  | run session choice =>
    refine ⟨fun _ either => ?_, fun _ _ impossible => (nomatch impossible), fun unpledged => ?_⟩
    · rcases either with impossible | impossible
      · cases impossible
      · cases impossible
    · rw [toldOnly, unpledged session choice rfl] at met
      cases met
  | _ => cases met

theorem calendar_push_complete_told : ∃ last, ReachesWhen store (Heeded bookedAndCancelled)
        (opening (calendarDb [openHour]) bookedAndCancelled) last ∧
      (last.db.onRecord .push (.seeded 1, .create) = true ∧
        last.db.onRecord .intent (.seeded 1, .postCancelPush) = true) ∧ Complete last.db := by
  rcases exists_of_playWhen store (toldOnly_sound bookedAndCancelled)
    (Event.steps 0 7 (.unsent "") ++ Event.steps 1 7 (.unsent ""))
    (fun last => decide (Idle bookedAndCancelled last ∧
      last.db.onRecord .push (.seeded 1, .create) = true ∧
        last.db.onRecord .intent (.seeded 1, .postCancelPush) = true))
    (.refl (opening (calendarDb [openHour]) bookedAndCancelled)) (by decide +kernel) with
    ⟨last, reached, facts⟩
  rcases of_decide_eq_true facts with ⟨idle, recorded⟩
  have prepared : Prepared (calendarDb [openHour]) := by
    apply calendarDb_prepared
    intro slot listed
    rw [List.mem_singleton.mp listed]
    rfl
  exact ⟨last, reached, recorded, calendar_push_complete prepared reached idle⟩

def assigned : List Request :=
  [.assignDirect ⟨.seeded 7, .canonical (.seeded 2), some (7 * 3600000), .integer 60, .seeded 3,
    none, .postpaid, none⟩]

/-- The lesson is booked, the calendar is connected, and nothing tells it. -/
theorem assigned_without_push :
    ¬ ∀ (db : CalendarDb) (requests : List Request) (last : State), Prepared db ->
      Reaches store (fun _ _ => True) (opening db requests) last -> Idle requests last ->
        Complete last.db := by
  intro claimed
  rcases exists_state_of_play store (opening (calendarDb []) assigned)
    (Event.steps 0 9 (.unsent ""))
    (fun last => decide (Idle assigned last ∧ ¬ Complete last.db)) (by decide +kernel) with
    ⟨last, reached, facts⟩
  rcases of_decide_eq_true facts with ⟨idle, incomplete⟩
  have prepared : Prepared (calendarDb []) :=
    calendarDb_prepared fun slot listed => absurd listed List.not_mem_nil
  exact incomplete (claimed (calendarDb []) assigned last prepared reached idle)

end Coverage
end Calendar
end LevelChannel
