import Mathlib.Data.List.Nodup
import Mathlib.Logic.Function.Basic
import LevelChannel.Schema.Identifiers

namespace LevelChannel.Calendar

/-!
# The job queues

Pushes to Google, pulls from Google and follow-ups of cancellations wait in three tables of
the same shape.  A worker claims a job, works on it, and writes how it ended.  A partial
unique index allows one pending job for each key, so that a job is enqueued once; a job
that goes back to pending after a failure meets the same index.  A refused status update
ends the worker with an error, and the job stays in progress with nobody working on it.
-/

/-! ## One queue -/

inductive JobStatus where
  | pending
  | inProgress
  | succeeded
  | terminalFailure
  | cancelledByDependent
  | blockedIntegration
  deriving DecidableEq

/-- The columns the three tables share; only pulls have a priority. -/
structure Job (Key : Type) where
  id : Nat
  key : Key
  priority : Int
  status : JobStatus
  attempts : Nat
  nextRunAt : Nat
  lastAttemptAt : Option Nat
  lastError : Option String
  deriving DecidableEq

/-- How a worker's job ends.  Pushes and pulls end by `markSucceeded` or `markFailure`,
pushes also with `cancelled_by_dependent`, intents by the last three or success. -/
inductive JobOutcome where
  | succeeded
  | failed (reason : String) (transient : Bool)
  | cancelledByDependent
  | blocked
  | terminal (reason : String)
  | rescheduled (reason : String)
  deriving DecidableEq

/-- What the queues differ in: whether an enqueue moves a pending job forward, how often a
job is tried, and how long it then waits. -/
structure QueueRules where
  refreshes : Bool
  maxAttempts : Nat
  backoffMs : List Nat

/-- A table of jobs, what each worker has claimed, and whether the index has ever refused a
status update. -/
structure JobQueue (Key : Type) where
  jobs : List (Job Key)
  nextId : Nat
  workers : Nat -> Option (Job Key)
  violated : Bool

section Queue

variable {Key : Type} [DecidableEq Key]

namespace Job

def enqueued (id : Nat) (key : Key) (priority : Int) (now : Nat) : Job Key :=
  ⟨id, key, priority, .pending, 0, now, none, none⟩

def claimed (now : Nat) (job : Job Key) : Job Key :=
  { job with status := .inProgress, attempts := job.attempts + 1, lastAttemptAt := some now }

def waitsFor (key : Key) (job : Job Key) : Bool :=
  job.status = .pending ∧ job.key = key

end Job

namespace QueueRules

variable (rules : QueueRules) (now : Nat)

def backoff (attempts : Nat) : Nat :=
  rules.backoffMs.getD (min (attempts - 1) (rules.backoffMs.length - 1)) 0

def goesBack (attempts : Nat) : JobOutcome -> Bool
  | .failed _ transient => transient && decide (attempts < rules.maxAttempts)
  | .rescheduled _ => true
  | _ => false

def finalStatus : JobOutcome -> JobStatus
  | .succeeded => .succeeded
  | .cancelledByDependent => .cancelledByDependent
  | .blocked => .blockedIntegration
  | _ => .terminalFailure

/-- What an outcome writes into `last_error`. -/
def lastError (job : Job Key) : JobOutcome -> Option String
  | .succeeded => none
  | .failed reason _ => some reason
  | .cancelledByDependent => job.lastError
  | .blocked => some "integration_disconnected"
  | .terminal reason => some reason
  | .rescheduled reason => some reason

/-- `markSucceeded`, `markFailure`, `markBlocked`, `markTerminal` and `reschedule`; the
attempts are those the worker has claimed the job with. -/
def settle (attempts : Nat) (outcome : JobOutcome) (job : Job Key) : Job Key :=
  if rules.goesBack attempts outcome then
    { job with
      status := .pending
      nextRunAt := now + rules.backoff attempts
      lastError := lastError job outcome }
  else
    { job with
      status := finalStatus outcome
      nextRunAt := if outcome = .blocked then now + 60 * 60000 else job.nextRunAt
      lastError := lastError job outcome }

end QueueRules

namespace JobQueue

variable (rules : QueueRules) (queue : JobQueue Key) (now : Nat)

/-- `update … where id = $1` -/
def updateWhereId (id : Nat) (set : Job Key -> Job Key) (jobs : List (Job Key)) : List (Job Key) :=
  jobs.map fun row => if row.id = id then set row else row

def Indexed (jobs : List (Job Key)) : Prop :=
  ((jobs.filter fun job => job.status = .pending).map Job.key).Nodup

instance (jobs : List (Job Key)) : Decidable (Indexed jobs) :=
  inferInstanceAs (Decidable (List.Nodup _))

/-- `enqueuePushJob`, `enqueuePullJob` or `insertPostCancelIntent` -/
def enqueue (key : Key) (priority : Int) : JobQueue Key :=
  if queue.jobs.any (Job.waitsFor key) then
    if rules.refreshes then
      { queue with
        jobs := queue.jobs.map fun job =>
          if job.waitsFor key then
            { job with
              nextRunAt := min job.nextRunAt now
              priority := max job.priority priority }
          else job }
    else queue
  else
    { queue with
      jobs := queue.jobs ++ [.enqueued queue.nextId key priority now]
      nextId := queue.nextId + 1 }

/-- `claimNextJob` or `claimNextIntent`.  Which of the due jobs is taken depends on their
order and on the rows that are locked; it may be any. -/
def claim (worker id : Nat) : Option (JobQueue Key) :=
  match queue.jobs.find? fun job => job.id = id with
  | none => none
  | some job =>
    if job.status = .pending ∧ job.nextRunAt ≤ now ∧ queue.workers worker = none then
      some { queue with
        jobs := updateWhereId id (Job.claimed now) queue.jobs
        workers := Function.update queue.workers worker (some (job.claimed now)) }
    else none

/-- A worker writes how its job ended.  When the index refuses that, the worker is done and
the job stays as it is. -/
def finish (worker : Nat) (outcome : JobOutcome) : Option (JobQueue Key) :=
  match queue.workers worker with
  | none => none
  | some claimed =>
    let written := updateWhereId claimed.id (rules.settle now claimed.attempts outcome) queue.jobs
    let idle := Function.update queue.workers worker none
    if Indexed written then some { queue with jobs := written, workers := idle }
    else some { queue with workers := idle, violated := true }

def cancelPending (key : Key) : JobQueue Key :=
  { queue with
    jobs := queue.jobs.map fun job =>
      if job.waitsFor key then { job with status := .cancelledByDependent } else job }

end JobQueue

inductive QueueEvent (Key : Type) where
  | enqueue (key : Key) (priority : Int)
  | claim (worker id : Nat)
  | finish (worker : Nat) (outcome : JobOutcome)
  | cancelPending (key : Key)

def JobQueue.step (rules : QueueRules) (now : Nat) (queue : JobQueue Key) :
    QueueEvent Key -> Option (JobQueue Key)
  | .enqueue key priority => some (queue.enqueue rules now key priority)
  | .claim worker id => queue.claim now worker id
  | .finish worker outcome => queue.finish rules now worker outcome
  | .cancelPending key => some (queue.cancelPending key)

end Queue

inductive QueueName where
  | push
  | pull
  | intent
  deriving DecidableEq

inductive PushKind where
  | create
  | update
  | delete
  deriving DecidableEq

inductive IntentKind where
  | postCancelPush
  | postMovePush
  | postBookPush
  deriving DecidableEq

namespace QueueName

/-- What the index of a queue is on: a slot and a kind, or a teacher and a calendar. -/
abbrev JobKey : QueueName -> Type
  | .push => RowId × PushKind
  | .pull => RowId × String
  | .intent => RowId × IntentKind

instance : (name : QueueName) -> DecidableEq name.JobKey
  | .push => inferInstanceAs (DecidableEq (RowId × PushKind))
  | .pull => inferInstanceAs (DecidableEq (RowId × String))
  | .intent => inferInstanceAs (DecidableEq (RowId × IntentKind))

private def hourMs : Nat := 60 * 60000

def rules : QueueName -> QueueRules
  | .push => ⟨false, 5, [60000, 2 * 60000, 5 * 60000, 15 * 60000, 30 * 60000]⟩
  | .pull => ⟨true, 5, [60000, 2 * 60000, 5 * 60000, 15 * 60000, 30 * 60000]⟩
  | .intent => ⟨false, 10, [60000, 5 * 60000, 30 * 60000, 2 * hourMs, 6 * hourMs, 12 * hourMs,
      24 * hourMs, 48 * hourMs, 72 * hourMs, 72 * hourMs]⟩

end QueueName

structure CalendarJobs where
  queues : (name : QueueName) -> JobQueue name.JobKey
  now : Nat

inductive CalendarEvent where
  | tick (passed : Nat)
  | on (name : QueueName) (event : QueueEvent name.JobKey)

namespace CalendarJobs

def step (state : CalendarJobs) : CalendarEvent -> Option CalendarJobs
  | .tick passed => some { state with now := state.now + passed }
  | .on name event =>
    ((state.queues name).step name.rules state.now event).map fun queue =>
      { state with queues := Function.update state.queues name queue }

def play (state : CalendarJobs) : List CalendarEvent -> Option CalendarJobs
  | [] => some state
  | event :: events => (state.step event).bind fun after => after.play events

end CalendarJobs

/-! ## Stranded jobs -/

section Queue

variable {Key : Type}

/-- No status update has been refused, and every job in progress is in the hands of a
worker. -/
structure JobQueue.NoneStranded (queue : JobQueue Key) : Prop where
  accepted : queue.violated = false
  held : ∀ job, job ∈ queue.jobs -> job.status = .inProgress ->
    ∃ worker claimed, queue.workers worker = some claimed ∧ claimed.id = job.id

variable [DecidableEq Key] in
/-- A worker puts its job back into a queue in which another job with its key is pending. -/
def JobQueue.disputes (rules : QueueRules) (queue : JobQueue Key) : QueueEvent Key -> Bool
  | .finish worker outcome =>
    match queue.workers worker with
    | none => false
    | some claimed =>
      rules.goesBack claimed.attempts outcome &&
        queue.jobs.any fun job => decide (job.id ≠ claimed.id) && job.waitsFor claimed.key
  | .enqueue _ _ => false
  | .claim _ _ => false
  | .cancelPending _ => false

namespace JobQueue

/-- The invariant of a queue: what workers hold is in progress, in one hand each, and unless
the index has refused an update nothing else is. -/
structure Sound (queue : JobQueue Key) : Prop where
  unique : (queue.jobs.map Job.id).Nodup
  fresh : ∀ job, job ∈ queue.jobs -> job.id < queue.nextId
  indexed : Indexed queue.jobs
  claimed : ∀ worker claimed, queue.workers worker = some claimed ->
    ∃ job, job ∈ queue.jobs ∧ job.id = claimed.id ∧ job.key = claimed.key ∧
      job.status = .inProgress
  apart : ∀ first second one other, queue.workers first = some one ->
    queue.workers second = some other -> one.id = other.id -> first = second
  covered : queue.violated = false -> queue.NoneStranded

variable {rules : QueueRules} {queue after : JobQueue Key} {now : Nat}
  {jobs : List (Job Key)} {change : Job Key -> Job Key}

variable [DecidableEq Key] in
theorem waitsFor_iff {key : Key} {job : Job Key} :
    job.waitsFor key = true <-> job.status = .pending ∧ job.key = key := by
  simp [Job.waitsFor]

theorem indexed_iff (unique : (jobs.map Job.id).Nodup) :
    Indexed jobs <-> ∀ first, first ∈ jobs -> ∀ second, second ∈ jobs ->
      first.status = .pending -> second.status = .pending -> first.key = second.key ->
        first = second := by
  have distinct : (jobs.filter fun job => job.status = .pending).Nodup :=
    (List.Nodup.of_map _ unique).filter _
  rw [Indexed, List.nodup_map_iff_inj_on distinct]
  simp only [List.mem_filter, decide_eq_true_eq]
  constructor
  · intro injective first member second memberSecond one other same
    exact injective first ⟨member, one⟩ second ⟨memberSecond, other⟩ same
  · rintro each first ⟨member, one⟩ second ⟨memberSecond, other⟩ same
    exact each first member second memberSecond one other same

theorem eq_of_id (unique : (jobs.map Job.id).Nodup) {first second : Job Key}
    (member : first ∈ jobs) (memberSecond : second ∈ jobs) (same : first.id = second.id) :
    first = second :=
  List.inj_on_of_nodup_map unique member memberSecond same

theorem map_id_map (ids : ∀ job, (change job).id = job.id) :
    (jobs.map change).map Job.id = jobs.map Job.id := by
  rw [List.map_map]
  exact List.map_congr_left fun job _ => ids job

theorem indexed_map (unique : (jobs.map Job.id).Nodup) (indexed : Indexed jobs)
    (ids : ∀ job, (change job).id = job.id) (keys : ∀ job, (change job).key = job.key)
    (leaves : ∀ job, (change job).status = .pending -> job.status = .pending) :
    Indexed (jobs.map change) := by
  rw [indexed_iff ((map_id_map ids).symm ▸ unique)]
  simp only [List.mem_map, forall_exists_index, and_imp, forall_apply_eq_imp_iff₂]
  intro first member second memberSecond one other same
  rw [keys, keys] at same
  exact congrArg change ((indexed_iff unique).mp indexed first member second memberSecond
    (leaves first one) (leaves second other) same)

theorem Sound.map (sound : queue.Sound) (ids : ∀ job, (change job).id = job.id)
    (keys : ∀ job, (change job).key = job.key)
    (leaves : ∀ job, (change job).status = .pending -> job.status = .pending)
    (working : ∀ job, (change job).status = .inProgress <-> job.status = .inProgress) :
    Sound { queue with jobs := queue.jobs.map change } where
  unique := (map_id_map ids).symm ▸ sound.unique
  fresh := by
    simp only [List.mem_map, forall_exists_index, and_imp, forall_apply_eq_imp_iff₂]
    intro job member
    rw [ids]
    exact sound.fresh job member
  indexed := indexed_map sound.unique sound.indexed ids keys leaves
  claimed worker taken holds := by
    rcases sound.claimed worker taken holds with ⟨job, member, same, key, status⟩
    refine ⟨change job, List.mem_map_of_mem member, ?_, ?_, (working job).mpr status⟩
    · rw [ids, same]
    · rw [keys, key]
  apart := sound.apart
  covered accepted := by
    refine ⟨accepted, ?_⟩
    simp only [List.mem_map, forall_exists_index, and_imp, forall_apply_eq_imp_iff₂]
    intro job member status
    rw [ids]
    exact (sound.covered accepted).held job member ((working job).mp status)

variable [DecidableEq Key] in
theorem Sound.enqueue (sound : queue.Sound) (key : Key) (priority : Int) :
    (queue.enqueue rules now key priority).Sound := by
  rw [JobQueue.enqueue]
  by_cases waiting : queue.jobs.any (Job.waitsFor key) = true
  · rw [if_pos waiting]
    by_cases refreshes : rules.refreshes = true
    · rw [if_pos refreshes]
      apply sound.map
      all_goals intro job
      all_goals by_cases here : job.waitsFor key = true <;> simp [here]
    · rw [if_neg refreshes]
      exact sound
  rw [if_neg waiting]
  have unnamed : ∀ job, job ∈ queue.jobs -> job.status = .pending -> job.key ≠ key := by
    intro job member pending same
    exact waiting (List.any_eq_true.mpr ⟨job, member, waitsFor_iff.mpr ⟨pending, same⟩⟩)
  have unique : ((queue.jobs ++ [Job.enqueued queue.nextId key priority now]).map
      Job.id).Nodup := by
    rw [List.map_append, List.map_singleton, List.nodup_append]
    refine ⟨sound.unique, List.nodup_singleton _, ?_⟩
    intro id member other same
    rcases List.mem_map.mp member with ⟨job, inside, rfl⟩
    rw [List.mem_singleton.mp same]
    exact Nat.ne_of_lt (sound.fresh job inside)
  constructor
  · exact unique
  · intro job member
    rcases List.mem_append.mp member with old | new
    · exact Nat.lt_succ_of_lt (sound.fresh job old)
    · rw [List.mem_singleton.mp new]
      exact Nat.lt_succ_self _
  · rw [indexed_iff unique]
    intro first member second memberSecond one other same
    rcases List.mem_append.mp member with old | new
    · rcases List.mem_append.mp memberSecond with oldSecond | newSecond
      · exact (indexed_iff sound.unique).mp sound.indexed first old second oldSecond one other same
      · rw [List.mem_singleton.mp newSecond] at same
        exact absurd same (unnamed first old one)
    · rcases List.mem_append.mp memberSecond with oldSecond | newSecond
      · rw [List.mem_singleton.mp new] at same
        exact absurd same.symm (unnamed second oldSecond other)
      · rw [List.mem_singleton.mp new, List.mem_singleton.mp newSecond]
  · intro worker claimed holds
    rcases sound.claimed worker claimed holds with ⟨job, member, facts⟩
    exact ⟨job, List.mem_append_left _ member, facts⟩
  · exact sound.apart
  · intro accepted
    refine ⟨accepted, ?_⟩
    intro job member status
    rcases List.mem_append.mp member with old | new
    · exact (sound.covered accepted).held job old status
    · rw [List.mem_singleton.mp new] at status
      cases status

variable [DecidableEq Key] in
theorem Sound.cancelPending (sound : queue.Sound) (key : Key) :
    (queue.cancelPending key).Sound := by
  apply sound.map
  all_goals intro job
  · by_cases here : job.waitsFor key = true <;> simp [here]
  · by_cases here : job.waitsFor key = true <;> simp [here]
  · by_cases here : job.waitsFor key = true <;> simp [here]
  · by_cases here : job.waitsFor key = true
    · simp [(waitsFor_iff.mp here).1, here]
    · simp [here]

theorem mem_updateWhereId {id : Nat} {set : Job Key -> Job Key} {job : Job Key} :
    job ∈ updateWhereId id set jobs <->
      (∃ row, row ∈ jobs ∧ row.id = id ∧ set row = job) ∨ (job ∈ jobs ∧ job.id ≠ id) := by
  rw [updateWhereId, List.mem_map]
  constructor
  · rintro ⟨row, member, rfl⟩
    by_cases here : row.id = id
    · rw [if_pos here]
      exact Or.inl ⟨row, member, here, rfl⟩
    · rw [if_neg here]
      exact Or.inr ⟨member, here⟩
  · rintro (⟨row, member, here, rfl⟩ | ⟨member, elsewhere⟩)
    · exact ⟨row, member, if_pos here⟩
    · exact ⟨job, member, if_neg elsewhere⟩

section Update

variable {id : Nat} {set : Job Key -> Job Key} (ids : ∀ job, (set job).id = job.id)
  (keys : ∀ job, (set job).key = job.key)

include ids in
theorem map_id_updateWhereId : (updateWhereId id set jobs).map Job.id = jobs.map Job.id := by
  apply map_id_map
  intro job
  by_cases here : job.id = id
  · rw [if_pos here, ids]
  · rw [if_neg here]

include ids in
theorem lt_updateWhereId {bound : Nat} (fresh : ∀ job, job ∈ jobs -> job.id < bound)
    (job : Job Key) (member : job ∈ updateWhereId id set jobs) : job.id < bound := by
  rcases mem_updateWhereId.mp member with ⟨row, inside, -, rfl⟩ | ⟨inside, -⟩
  · rw [ids]
    exact fresh row inside
  · exact fresh job inside

include ids keys in
theorem indexed_updateWhereId (unique : (jobs.map Job.id).Nodup) (indexed : Indexed jobs)
    {row : Job Key} (member : row ∈ jobs) (here : row.id = id) :
    Indexed (updateWhereId id set jobs) <->
      ((set row).status = .pending -> ∀ job, job ∈ jobs -> job.id ≠ id ->
        job.status = .pending -> job.key ≠ row.key) := by
  rw [indexed_iff ((map_id_updateWhereId ids).symm ▸ unique)]
  constructor
  · intro each back job inside elsewhere pending same
    have alike := each (set row) (mem_updateWhereId.mpr (Or.inl ⟨row, member, here, rfl⟩)) job
      (mem_updateWhereId.mpr (Or.inr ⟨inside, elsewhere⟩)) back pending
      ((keys row).trans same.symm)
    apply elsewhere
    rw [← alike, ids, here]
  · intro alone first memberFirst second memberSecond one other same
    rcases mem_updateWhereId.mp memberFirst with ⟨left, inLeft, idLeft, rfl⟩ | ⟨inLeft, awayLeft⟩
    · have isRow := eq_of_id unique inLeft member (idLeft.trans here.symm)
      subst left
      rcases mem_updateWhereId.mp memberSecond with
        ⟨right, inRight, idRight, rfl⟩ | ⟨inRight, awayRight⟩
      · rw [eq_of_id unique inRight member (idRight.trans here.symm)]
      · exact absurd (same.symm.trans (keys row)) (alone one second inRight awayRight other)
    · rcases mem_updateWhereId.mp memberSecond with
        ⟨right, inRight, idRight, rfl⟩ | ⟨inRight, awayRight⟩
      · have isRow := eq_of_id unique inRight member (idRight.trans here.symm)
        subst right
        exact absurd (same.trans (keys row)) (alone other first inLeft awayLeft one)
      · exact (indexed_iff unique).mp indexed first inLeft second inRight one other same

end Update

theorem Sound.take {worker : Nat} {job : Job Key} (sound : queue.Sound)
    (member : job ∈ queue.jobs) (pending : job.status = .pending)
    (idle : queue.workers worker = none) :
    Sound { queue with
      jobs := updateWhereId job.id (Job.claimed now) queue.jobs
      workers := Function.update queue.workers worker (some (job.claimed now)) } := by
  have ids : ∀ row : Job Key, (row.claimed now).id = row.id := fun _ => rfl
  have working : ∀ other claimed, queue.workers other = some claimed ->
      claimed.id ≠ job.id := by
    intro other claimed holds same
    rcases sound.claimed other claimed holds with ⟨row, inside, id, -, status⟩
    rw [eq_of_id sound.unique inside member (id.trans same), pending] at status
    cases status
  constructor
  all_goals dsimp only
  · exact (map_id_updateWhereId ids).symm ▸ sound.unique
  · exact lt_updateWhereId ids sound.fresh
  · rw [indexed_updateWhereId ids (fun _ => rfl) sound.unique sound.indexed member rfl]
    intro back
    cases back
  · intro other claimed holds
    by_cases same : other = worker
    · subst other
      rw [Function.update_self, Option.some.injEq] at holds
      subst claimed
      exact ⟨job.claimed now, mem_updateWhereId.mpr (Or.inl ⟨job, member, rfl, rfl⟩), rfl, rfl, rfl⟩
    · rw [Function.update_of_ne same] at holds
      rcases sound.claimed other claimed holds with ⟨row, inside, id, facts⟩
      refine ⟨row, mem_updateWhereId.mpr (Or.inr ⟨inside, ?_⟩), id, facts⟩
      rw [id]
      exact working other claimed holds
  · intro first second one other holds holdsSecond same
    by_cases left : first = worker
    · by_cases right : second = worker
      · rw [left, right]
      · subst first
        rw [Function.update_self, Option.some.injEq] at holds
        rw [Function.update_of_ne right] at holdsSecond
        subst one
        exact absurd same.symm (working second other holdsSecond)
    · rw [Function.update_of_ne left] at holds
      by_cases right : second = worker
      · subst second
        rw [Function.update_self, Option.some.injEq] at holdsSecond
        subst other
        exact absurd same (working first one holds)
      · rw [Function.update_of_ne right] at holdsSecond
        exact sound.apart first second one other holds holdsSecond same
  · intro accepted
    refine ⟨accepted, ?_⟩
    dsimp only
    intro row inside status
    rcases mem_updateWhereId.mp inside with ⟨old, -, here, rfl⟩ | ⟨old, -⟩
    · exact ⟨worker, job.claimed now, Function.update_self .., here.symm⟩
    · rcases (sound.covered accepted).held row old status with ⟨other, claimed, holds, same⟩
      refine ⟨other, claimed, ?_, same⟩
      rw [Function.update_of_ne]
      · exact holds
      · rintro rfl
        rw [idle] at holds
        cases holds

theorem Sound.claim {worker id : Nat} (sound : queue.Sound)
    (went : queue.claim now worker id = some after) :
    after.Sound ∧ after.violated = queue.violated := by
  rw [JobQueue.claim] at went
  cases found : queue.jobs.find? fun job => job.id = id with
  | none =>
    rw [found] at went
    cases went
  | some job =>
    simp only [found] at went
    by_cases due : job.status = .pending ∧ job.nextRunAt ≤ now ∧ queue.workers worker = none
    · rw [if_pos due, Option.some.injEq] at went
      have named : job.id = id := by simpa using List.find?_some found
      subst id
      subst after
      exact ⟨sound.take (List.mem_of_find?_eq_some found) due.1 due.2.2, rfl⟩
    · rw [if_neg due] at went
      cases went

theorem Sound.letGo {worker : Nat} {claimed : Job Key} {set : Job Key -> Job Key}
    (sound : queue.Sound) (holds : queue.workers worker = some claimed)
    (ids : ∀ job, (set job).id = job.id) (leaves : ∀ job, (set job).status ≠ .inProgress)
    (indexed : Indexed (updateWhereId claimed.id set queue.jobs)) :
    Sound { queue with
      jobs := updateWhereId claimed.id set queue.jobs
      workers := Function.update queue.workers worker none } := by
  have still : ∀ other taken, Function.update queue.workers worker none other = some taken ->
      other ≠ worker ∧ queue.workers other = some taken := by
    intro other taken after
    by_cases same : other = worker
    · subst other
      rw [Function.update_self] at after
      cases after
    · rw [Function.update_of_ne same] at after
      exact ⟨same, after⟩
  constructor
  all_goals dsimp only
  · exact (map_id_updateWhereId ids).symm ▸ sound.unique
  · exact lt_updateWhereId ids sound.fresh
  · exact indexed
  · intro other taken after
    rcases still other taken after with ⟨different, before⟩
    rcases sound.claimed other taken before with ⟨row, inside, id, facts⟩
    refine ⟨row, mem_updateWhereId.mpr (Or.inr ⟨inside, ?_⟩), id, facts⟩
    intro same
    exact different (sound.apart other worker taken claimed before holds (id.symm.trans same))
  · intro first second one other after afterSecond same
    exact sound.apart first second one other (still first one after).2
      (still second other afterSecond).2 same
  · intro accepted
    refine ⟨accepted, ?_⟩
    dsimp only
    intro row inside status
    rcases mem_updateWhereId.mp inside with ⟨old, -, -, rfl⟩ | ⟨old, elsewhere⟩
    · exact absurd status (leaves old)
    · rcases (sound.covered accepted).held row old status with ⟨other, taken, before, same⟩
      refine ⟨other, taken, ?_, same⟩
      rw [Function.update_of_ne]
      · exact before
      · rintro rfl
        rw [holds, Option.some.injEq] at before
        subst taken
        exact elsewhere same.symm

theorem Sound.refused {worker : Nat} (sound : queue.Sound) :
    Sound { queue with
      workers := Function.update queue.workers worker none, violated := true } := by
  have left : ∀ other taken, Function.update queue.workers worker none other = some taken ->
      queue.workers other = some taken := by
    intro other taken after
    by_cases same : other = worker
    · subst other
      rw [Function.update_self] at after
      cases after
    · rw [Function.update_of_ne same] at after
      exact after
  constructor
  · exact sound.unique
  · exact sound.fresh
  · exact sound.indexed
  · intro other taken after
    exact sound.claimed other taken (left other taken after)
  · intro first second one other after afterSecond same
    exact sound.apart first second one other (left first one after)
      (left second other afterSecond) same
  · intro accepted
    cases accepted

theorem settle_id (attempts : Nat) (outcome : JobOutcome) (job : Job Key) :
    (rules.settle now attempts outcome job).id = job.id := by
  rw [QueueRules.settle]
  split <;> rfl

theorem settle_key (attempts : Nat) (outcome : JobOutcome) (job : Job Key) :
    (rules.settle now attempts outcome job).key = job.key := by
  rw [QueueRules.settle]
  split <;> rfl

theorem settle_pending_iff {attempts : Nat} {outcome : JobOutcome} {job : Job Key} :
    (rules.settle now attempts outcome job).status = .pending <->
      rules.goesBack attempts outcome = true := by
  rw [QueueRules.settle]
  by_cases back : rules.goesBack attempts outcome = true
  · rw [if_pos back]
    simp [back]
  · rw [if_neg back]
    cases outcome <;> simp_all [QueueRules.finalStatus]

theorem settle_leaves (attempts : Nat) (outcome : JobOutcome) (job : Job Key) :
    (rules.settle now attempts outcome job).status ≠ .inProgress := by
  rw [QueueRules.settle]
  split
  · simp
  · cases outcome <;> simp [QueueRules.finalStatus]

variable [DecidableEq Key] in
theorem indexed_settle_iff {worker : Nat} {claimed : Job Key} {outcome : JobOutcome}
    (sound : queue.Sound) (holds : queue.workers worker = some claimed) :
    Indexed (updateWhereId claimed.id (rules.settle now claimed.attempts outcome) queue.jobs) <->
      queue.disputes rules (.finish worker outcome) = false := by
  rcases sound.claimed worker claimed holds with ⟨row, member, id, key, -⟩
  rw [indexed_updateWhereId (settle_id _ _) (settle_key _ _) sound.unique sound.indexed member id,
    settle_pending_iff, key]
  simp only [disputes, holds, Bool.and_eq_false_imp, List.any_eq_false, Bool.and_eq_true,
    decide_eq_true_eq, waitsFor_iff, not_and]

variable [DecidableEq Key] in
theorem Sound.finish {worker : Nat} {outcome : JobOutcome} (sound : queue.Sound)
    (went : queue.finish rules now worker outcome = some after) : after.Sound ∧
      after.violated = (queue.violated || queue.disputes rules (.finish worker outcome)) := by
  rw [JobQueue.finish] at went
  cases holds : queue.workers worker with
  | none =>
    rw [holds] at went
    cases went
  | some claimed =>
    simp only [holds] at went
    have accepted :
        Indexed (updateWhereId claimed.id (rules.settle now claimed.attempts outcome)
          queue.jobs) <-> queue.disputes rules (.finish worker outcome) = false :=
      indexed_settle_iff sound holds
    by_cases indexed :
      Indexed (updateWhereId claimed.id (rules.settle now claimed.attempts outcome) queue.jobs)
    · rw [if_pos indexed, Option.some.injEq] at went
      subst after
      refine ⟨sound.letGo holds (settle_id _ _) (settle_leaves _ _) indexed, ?_⟩
      rw [accepted.mp indexed, Bool.or_false]
    · rw [if_neg indexed, Option.some.injEq] at went
      subst after
      refine ⟨sound.refused, ?_⟩
      rw [(Bool.not_eq_false _).mp fun quiet => indexed (accepted.mpr quiet), Bool.or_true]

variable [DecidableEq Key] in
theorem Sound.step {event : QueueEvent Key} (sound : queue.Sound)
    (went : queue.step rules now event = some after) :
    after.Sound ∧ after.violated = (queue.violated || queue.disputes rules event) := by
  cases event with
  | enqueue key priority =>
    cases went
    refine ⟨sound.enqueue key priority, ?_⟩
    rw [disputes, Bool.or_false, JobQueue.enqueue]
    split
    · split <;> rfl
    · rfl
  | claim worker id =>
    rw [disputes, Bool.or_false]
    exact sound.claim went
  | finish worker outcome => exact sound.finish went
  | cancelPending key =>
    cases went
    exact ⟨sound.cancelPending key, (Bool.or_false _).symm⟩

theorem Sound.noneStranded_iff (sound : queue.Sound) :
    queue.NoneStranded <-> queue.violated = false :=
  ⟨fun none => none.accepted, sound.covered⟩

end JobQueue

end Queue

namespace CalendarJobs

def NoneStranded (state : CalendarJobs) : Prop :=
  ∀ name, (state.queues name).NoneStranded

def disputes (state : CalendarJobs) : CalendarEvent -> Bool
  | .tick _ => false
  | .on name event => (state.queues name).disputes name.rules event

def undisputed (state : CalendarJobs) : List CalendarEvent -> Bool
  | [] => true
  | event :: events =>
    !state.disputes event && (state.step event).all fun after => after.undisputed events

def empty (now : Nat) : CalendarJobs where
  queues _ := ⟨[], 0, fun _ => none, false⟩
  now := now

/-- Every queue is sound. -/
def Sound (state : CalendarJobs) : Prop :=
  ∀ name, (state.queues name).Sound

variable {state after last : CalendarJobs}

theorem sound_empty (now : Nat) : (empty now).Sound := by
  intro name
  constructor
  · exact List.nodup_nil
  · intro job member
    cases member
  · exact List.nodup_nil
  · intro worker claimed holds
    cases holds
  · intro first second one other holds
    cases holds
  · intro accepted
    refine ⟨accepted, ?_⟩
    intro job member
    cases member

theorem Sound.step {event : CalendarEvent} (sound : state.Sound)
    (went : state.step event = some after) : after.Sound ∧
      (after.NoneStranded <-> state.NoneStranded ∧ state.disputes event = false) := by
  cases event with
  | tick passed =>
    cases went
    exact ⟨sound, fun none => ⟨none, rfl⟩, fun both => both.1⟩
  | on name event =>
    rw [CalendarJobs.step] at went
    cases stepped : (state.queues name).step name.rules state.now event with
    | none =>
      rw [stepped] at went
      cases went
    | some queue =>
      rw [stepped, Option.map_some, Option.some.injEq] at went
      subst after
      rcases (sound name).step stepped with ⟨kept, violated⟩
      have quiet : queue.NoneStranded <->
          (state.queues name).NoneStranded ∧ state.disputes (.on name event) = false := by
        rw [kept.noneStranded_iff, (sound name).noneStranded_iff, violated,
          Bool.or_eq_false_iff]
        rfl
      constructor
      · intro other
        dsimp only
        by_cases same : other = name
        · subst other
          rw [Function.update_self]
          exact kept
        · rw [Function.update_of_ne same]
          exact sound other
      · constructor
        · intro none
          have here := none name
          dsimp only at here
          rw [Function.update_self, quiet] at here
          refine ⟨fun other => ?_, here.2⟩
          by_cases same : other = name
          · subst other
            exact here.1
          · have there := none other
            dsimp only at there
            rwa [Function.update_of_ne same] at there
        · rintro ⟨none, undisputed⟩ other
          dsimp only
          by_cases same : other = name
          · subst other
            rw [Function.update_self]
            exact quiet.mpr ⟨none name, undisputed⟩
          · rw [Function.update_of_ne same]
            exact none other

theorem Sound.play {events : List CalendarEvent} (sound : state.Sound)
    (run : state.play events = some last) :
    last.NoneStranded <-> state.NoneStranded ∧ state.undisputed events = true := by
  induction events generalizing state with
  | nil =>
    cases run
    exact ⟨fun none => ⟨none, rfl⟩, fun both => both.1⟩
  | cons event events extend =>
    rw [CalendarJobs.play] at run
    cases stepped : state.step event with
    | none =>
      rw [stepped] at run
      cases run
    | some after =>
      rw [stepped, Option.bind_some] at run
      rcases sound.step stepped with ⟨kept, first⟩
      rw [extend kept run, first, undisputed, stepped, Option.all_some, Bool.and_eq_true,
        Bool.not_eq_true', and_assoc]

/-- After a run no job is stranded exactly when no job has ever been put back beside a
pending one with its key. -/
theorem none_stranded_iff {now : Nat} {events : List CalendarEvent}
    (run : (empty now).play events = some last) :
    last.NoneStranded <-> (empty now).undisputed events = true := by
  rw [(sound_empty now).play run]
  refine ⟨fun both => both.2, fun undisputed => ⟨fun name => ?_, undisputed⟩⟩
  exact ((sound_empty now) name).covered rfl

private def calendarKey : QueueName.pull.JobKey := (.seeded 1, "primary")

private def retriedPull : List CalendarEvent :=
  [.on .pull (.enqueue calendarKey 0), .on .pull (.claim 0 0),
    .on .pull (.finish 0 (.failed "network" true)), .tick 60000, .on .pull (.claim 0 0),
    .on .pull (.finish 0 .succeeded)]

theorem none_stranded_retried :
    ∃ last, (empty 0).play retriedPull = some last ∧ last.NoneStranded := by
  have possible : ((empty 0).play retriedPull).isSome = true := by
    decide +kernel
  rcases Option.isSome_iff_exists.mp possible with ⟨last, run⟩
  exact ⟨last, run, (none_stranded_iff run).mpr (by decide +kernel)⟩

/-- A webhook asks for another pull while one is under way, which then fails. -/
private def overtakenPull : List CalendarEvent :=
  [.on .pull (.enqueue calendarKey 0), .on .pull (.claim 0 0), .on .pull (.enqueue calendarKey 2),
    .on .pull (.finish 0 (.failed "network" true))]

/-- The first pull stays in progress, and its only worker is gone. -/
theorem pull_stranded : ∃ last, (empty 0).play overtakenPull = some last ∧ ¬ last.NoneStranded ∧
      (last.queues .pull).violated = true ∧ (last.queues .pull).workers 0 = none ∧
      (last.queues .pull).jobs.map Job.status = [.inProgress, .pending] := by
  have facts : (((empty 0).play overtakenPull).any fun last =>
      (last.queues .pull).violated && (last.queues .pull).workers 0 = none &&
        (last.queues .pull).jobs.map Job.status = [.inProgress, .pending]) = true := by
    decide +kernel
  cases run : (empty 0).play overtakenPull with
  | none =>
    rw [run] at facts
    cases facts
  | some last =>
    rw [run, Option.any_some, Bool.and_eq_true, Bool.and_eq_true, decide_eq_true_eq,
      decide_eq_true_eq] at facts
    refine ⟨last, rfl, fun sound => ?_, facts.1.1, facts.1.2, facts.2⟩
    exact absurd facts.1.1 ((sound .pull).accepted ▸ Bool.false_ne_true)

end CalendarJobs

end LevelChannel.Calendar
