import LevelChannel.ReadCommitted.Statements
import LevelChannel.Tables.Log
import LevelChannel.Calendar.Integrations
import LevelChannel.Calendar.Jobs

namespace LevelChannel

open ReadCommitted Tables

namespace ChannelWebhook

/-!
# Notifications of Google

Google numbers the notifications of a channel and may send them late, twice or in any order.
The webhook takes one if its number is above the last that it has taken on the channel, and
wakes a pull of every calendar that is read.  A new channel of the integration starts to
count anew, and the workers claim the pulls while all this happens.
-/

/-! ## Rows -/

/-- A row of `teacher_calendar_integrations`, as far as the webhook reads it. -/
structure ChannelRow where
  accountId : RowId
  channelId : Option RowId
  channelToken : Option RowId
  channelResourceId : Option String
  channelExpiresAt : Option Nat
  lastSeenMessageNumber : Option Nat
  readCalendarIds : List String
  syncState : Calendar.SyncState
  deriving DecidableEq

/-- A row of `calendar_pull_jobs`. -/
structure PullJob where
  id : RowId
  teacherAccountId : RowId
  externalCalendarId : String
  priority : Int
  status : Calendar.JobStatus
  attempts : Nat
  nextRunAt : Nat
  lastAttemptAt : Option Nat
  deriving DecidableEq

def PullJob.waitsFor (job : PullJob) (accountId : RowId) (calendarId : String) : Bool :=
  job.status = .pending && job.teacherAccountId = accountId && job.externalCalendarId = calendarId

/-- The headers of a notification.  A number that is no positive whole one counts as zero. -/
structure Notification where
  channelId : RowId
  channelToken : RowId
  resourceId : String
  resourceState : String
  messageNumber : Nat
  deriving DecidableEq

/-- How a notification was answered: whether it was taken, whether it came with the secret and
the resource of the channel that a row has, whether its number is above all that were taken on
its channel, whether it speaks of a change, whether the channel is still good, and whether
every calendar has a pull that is due and urgent. -/
structure Decision where
  channelId : RowId
  messageNumber : Nat
  accepted : Bool
  genuine : Bool
  exceeds : Bool
  change : Bool
  unexpired : Bool
  woken : Bool
  deriving DecidableEq

/-- The tables and the clock.  The last two fields are in no table: all channels that were ever
stored, with their accounts, and the decisions, the last first. -/
structure WebhookDb where
  clock : Nat
  rows : List ChannelRow
  jobs : List PullJob
  channels : List (RowId × RowId)
  decisions : List Decision

inductive WebhookWrite where
  | stored (accountId channelId channelToken : RowId) (resourceId : String) (expiresAt : Nat)
  | seen (accountId : RowId) (messageNumber : Nat)
  | insertPull (job : PullJob)
  | raisePull (accountId : RowId) (calendarId : String) (now : Nat)
  | claim (id accountId : RowId) (calendarId : String) (now : Nat)
  | decided (notification : Notification) (accepted : Bool)

inductive WebhookLock where
  | integration (accountId : RowId)
  | pull (accountId : RowId) (calendarId : String)
  deriving DecidableEq

/-- `least(next_run_at, ..)` and `greatest(priority, 2)` -/
def PullJob.raised (job : PullJob) (now : Nat) : PullJob :=
  { job with nextRunAt := min job.nextRunAt now, priority := max job.priority 2 }

def PullJob.wakes (job : PullJob) (accountId : RowId) (calendarId : String) (now : Nat) : Bool :=
  job.waitsFor accountId calendarId && decide (job.nextRunAt ≤ now) && decide (2 ≤ job.priority)

namespace WebhookDb

def row? (db : WebhookDb) (accountId : RowId) : Option ChannelRow :=
  get ChannelRow.accountId db.rows accountId

/-- `where channel_id = ..` -/
def byChannel (db : WebhookDb) (channelId : RowId) : Option ChannelRow :=
  db.rows.find? fun row => row.channelId = some channelId

def decision (db : WebhookDb) (notification : Notification) (accepted : Bool) : Decision where
  channelId := notification.channelId
  messageNumber := notification.messageNumber
  accepted := accepted
  genuine := (db.byChannel notification.channelId).any fun row =>
    row.channelToken = some notification.channelToken &&
      row.channelResourceId = some notification.resourceId
  exceeds := db.decisions.all fun other =>
    !other.accepted || other.channelId ≠ notification.channelId ||
      decide (other.messageNumber < notification.messageNumber)
  change := notification.resourceState ≠ "sync"
  unexpired := (db.byChannel notification.channelId).any fun row =>
    row.channelExpiresAt.all fun expiresAt => decide (db.clock ≤ expiresAt)
  woken := (db.byChannel notification.channelId).any fun row =>
    row.readCalendarIds.all fun calendarId =>
      db.jobs.any fun job => job.wakes row.accountId calendarId db.clock

def apply (db : WebhookDb) : WebhookWrite -> WebhookDb
  | .stored accountId channelId channelToken resourceId expiresAt =>
    { db with
      rows := db.rows.map fun row =>
        if row.accountId = accountId then
          { row with
            channelId := some channelId
            channelToken := some channelToken
            channelResourceId := some resourceId
            channelExpiresAt := some expiresAt
            lastSeenMessageNumber := none }
        else row
      channels := (channelId, accountId) :: db.channels }
  | .seen accountId messageNumber =>
    { db with
      rows := db.rows.map fun row =>
        if row.accountId = accountId then { row with lastSeenMessageNumber := some messageNumber }
        else row }
  | .insertPull job => { db with jobs := db.jobs ++ [job] }
  | .raisePull accountId calendarId now =>
    { db with
      jobs := db.jobs.map fun job =>
        if job.waitsFor accountId calendarId then job.raised now else job }
  | .claim id accountId calendarId now =>
    { db with
      jobs := db.jobs.map fun job =>
        if job.id = id && job.waitsFor accountId calendarId then
          { job with
            status := .inProgress
            attempts := job.attempts + 1
            lastAttemptAt := some now }
        else job }
  | .decided notification accepted =>
    { db with decisions := db.decision notification accepted :: db.decisions }

end WebhookDb

structure WebhookDrift where
  passed : Nat

def WebhookDb.drift (db : WebhookDb) (change : WebhookDrift) : WebhookDb :=
  { db with clock := db.clock + change.passed }

def webhookStore : Store WebhookDb WebhookLock WebhookWrite WebhookDrift where
  apply := WebhookDb.apply
  drift := fun change db => db.drift change
  close := fun _ db => db
  conflict := fun first second => first = second
  conflict_comm := fun _ _ => decide_eq_decide.mpr eq_comm

inductive WebhookReply where
  | silentOk
  | stored
  | failed
  | claimed
  deriving DecidableEq

abbrev WebhookProgram :=
  ReadCommitted.Program WebhookDb WebhookLock WebhookWrite Unit Unit WebhookReply

abbrev WebhookState := ReadCommitted.State WebhookDb WebhookLock WebhookWrite Unit Unit WebhookReply

/-- `ALLOWED_RESOURCE_STATES` -/
def allowedResourceStates : List String :=
  ["sync", "exists", "update", "delete", "not_exists"]

def ChannelRow.accepts (row : ChannelRow) (notification : Notification) : Bool :=
  row.channelId = some notification.channelId &&
    row.channelToken = some notification.channelToken &&
    row.channelResourceId = some notification.resourceId &&
    decide (row.lastSeenMessageNumber.getD 0 < notification.messageNumber)

/-- `channelStale` -/
def ChannelRow.stale (row : ChannelRow) (now : Nat) : Bool :=
  row.channelExpiresAt.any fun expiresAt => expiresAt < now

/-- `insert into calendar_pull_jobs .. on conflict .. where status = 'pending' do update` -/
def WebhookDb.enqueue (db : WebhookDb) (id accountId : RowId) (calendarId : String) (now : Nat) :
    List WebhookWrite :=
  if db.jobs.any fun job => job.waitsFor accountId calendarId then
    [.raisePull accountId calendarId now]
  else [.insertPull ⟨id, accountId, calendarId, 2, .pending, 0, now, none⟩]

def enqueuePulls (session : Nat) (accountId : RowId) (now : Nat) (next : WebhookProgram) :
    List String -> WebhookProgram
  | [] => next
  | calendarId :: rest =>
    .writing () [.pull accountId calendarId] (.done .silentOk)
      (fun own => own.enqueue (.minted session rest.length) accountId calendarId now)
      fun _ => enqueuePulls session accountId now next rest

def drop : WebhookProgram :=
  .commit (.done .silentOk) (.done .silentOk)

def take (notification : Notification) : WebhookProgram :=
  .writing () [] (.done .silentOk) (fun _ => [.decided notification true])
    fun _ => .commit (.done .silentOk) (.done .silentOk)

def accept (session : Nat) (notification : Notification) (row : ChannelRow) (begun now : Nat) :
    WebhookProgram :=
  .writing () [] (.done .silentOk) (fun _ => [.seen row.accountId notification.messageNumber])
    fun _ =>
      if notification.resourceState ≠ "sync" ∧ row.stale now = false ∧
          row.syncState ≠ .disconnected then
        enqueuePulls session row.accountId begun (take notification) row.readCalendarIds
      else take notification

/-- `POST`, after the limit on requests. -/
def post (session : Nat) (notification : Notification) : WebhookProgram :=
  if notification.resourceState ∉ allowedResourceStates ∨ notification.messageNumber = 0 then
    .done .silentOk
  else
    .reading () (.done .silentOk) fun _ begun =>
      -- the row is found first, and read again when its lock is there
      .call ()
        (fun now _ =>
          if (now.byChannel notification.channelId).isNone then [.decided notification false]
          else [])
        fun now _ =>
          match now.byChannel notification.channelId with
          | none => drop
          | some found =>
            .acquiring () [.integration found.accountId] (.done .silentOk) fun _ _ =>
              .call ()
                (fun now _ =>
                  if (now.row? found.accountId).any fun row => row.accepts notification then []
                  else [.decided notification false])
                fun now _ =>
                  match now.row? found.accountId with
                  | none => drop
                  | some row =>
                    if row.accepts notification then
                      accept session notification row begun.clock now.clock
                    else drop

/-! ## Channels and workers -/

/-- `setupChannelForIntegration`, with what Google answers. -/
def setupChannelForIntegration (session : Nat) (accountId : RowId) (resourceId : String)
    (expiresAt : Nat) : WebhookProgram :=
  .reading () (.done .failed) fun committed _ =>
    match committed.row? accountId with
    | none => .done .failed
    | some row =>
      if row.syncState = .disconnected then .done .failed
      else
        .writing () [.integration accountId] (.done .failed)
          (fun _ => [.stored accountId (.minted session 0) (.minted session 1) resourceId
            expiresAt])
          fun _ => .commit (.done .failed) (.done .stored)

/-- `claimNextJob`, of any job that is due. -/
def claimNextJob (id accountId : RowId) (calendarId : String) : WebhookProgram :=
  .writing () [.pull accountId calendarId] (.done .failed)
    (fun own =>
      if own.jobs.any fun job =>
          job.id = id && job.waitsFor accountId calendarId && decide (job.nextRunAt ≤ own.clock)
      then [.claim id accountId calendarId own.clock] else [])
    fun _ => .commit (.done .failed) (.done .claimed)

inductive WebhookRequest where
  | post (notification : Notification)
  | setupChannel (accountId : RowId) (resourceId : String) (expiresAt : Nat)
  | claim (id accountId : RowId) (calendarId : String)
  deriving DecidableEq

def WebhookRequest.program (session : Nat) : WebhookRequest -> WebhookProgram
  | .post notification => ChannelWebhook.post session notification
  | .setupChannel accountId resourceId expiresAt =>
    setupChannelForIntegration session accountId resourceId expiresAt
  | .claim id accountId calendarId => claimNextJob id accountId calendarId

/-- The tables at the start: the integrations are connected, and nothing has come yet on a
channel that one of them has. -/
structure WebhookOpening where
  clock : Nat
  rows : List ChannelRow
  jobs : List PullJob
  accounts : Unique ChannelRow.accountId rows
  channels : ∀ first, first ∈ rows -> ∀ second, second ∈ rows -> ∀ channelId,
    first.channelId = some channelId -> second.channelId = some channelId -> first = second
  seeded : ∀ row, row ∈ rows -> ∀ channelId, row.channelId = some channelId ->
    channelId.minter = none
  unseen : ∀ row, row ∈ rows -> row.lastSeenMessageNumber = none
  connected : ∀ row, row ∈ rows -> row.syncState ≠ .disconnected

def WebhookOpening.db (opening : WebhookOpening) : WebhookDb :=
  ⟨opening.clock, opening.rows, opening.jobs,
    opening.rows.filterMap fun row => row.channelId.map fun channelId => (channelId, row.accountId),
    []⟩

def webhookOpening (opening : WebhookOpening) (requests : Nat -> WebhookRequest) : WebhookState :=
  State.start opening.db fun session => (requests session).program session

/-- No number is taken twice on a channel, a notification is taken if and only if it is genuine
and above all that were taken before, and a change on a channel that is still good wakes a pull
of every calendar. -/
structure Reliable (db : WebhookDb) : Prop where
  once : ((db.decisions.filter fun decision => decision.accepted).map fun decision =>
    (decision.channelId, decision.messageNumber)).Nodup
  exact : ∀ decision, decision ∈ db.decisions ->
    (decision.accepted = true <-> decision.genuine = true ∧ decision.exceeds = true)
  woken : ∀ decision, decision ∈ db.decisions -> decision.accepted = true ->
    decision.change = true -> decision.unexpired = true -> decision.woken = true

def Highest (decisions : List Decision) (channelId : RowId) (number : Nat) : Prop :=
  (∀ decision, decision ∈ decisions -> decision.accepted = true ->
    decision.channelId = channelId -> decision.messageNumber ≤ number) ∧
  (number = 0 ∨ ∃ decision, decision ∈ decisions ∧ decision.accepted = true ∧
    decision.channelId = channelId ∧ decision.messageNumber = number)

namespace WebhookDb

variable {db before after : WebhookDb} {session : Nat} {held : List WebhookLock}

/-- A channel belongs to one account. -/
structure Stored (db : WebhookDb) : Prop where
  accounts : Unique ChannelRow.accountId db.rows
  stored : ∀ row, row ∈ db.rows -> ∀ channelId, row.channelId = some channelId ->
    (channelId, row.accountId) ∈ db.channels
  owners : ∀ channelId first second, (channelId, first) ∈ db.channels ->
    (channelId, second) ∈ db.channels -> first = second
  connected : ∀ row, row ∈ db.rows -> row.syncState ≠ .disconnected

structure Consistent (db : WebhookDb) : Prop extends Stored db where
  taken : ∀ decision, decision ∈ db.decisions -> decision.accepted = true ->
    ∃ accountId, (decision.channelId, accountId) ∈ db.channels
  seen : ∀ row, row ∈ db.rows -> ∀ channelId, row.channelId = some channelId ->
    Highest db.decisions channelId (row.lastSeenMessageNumber.getD 0)
  reliable : Reliable db

/-- A session writes rows and pending pulls under their locks, and stores no channel but the
one it has minted. -/
structure Respects (session : Nat) (held : List WebhookLock) (before after : WebhookDb) :
    Prop where
  clock : before.clock ≤ after.clock
  rows : ∀ accountId, WebhookLock.integration accountId ∉ held ->
    after.row? accountId = before.row? accountId
  stored : ∀ entry, entry ∈ before.channels -> entry ∈ after.channels
  minted : ∀ entry, entry ∈ after.channels ->
    entry ∈ before.channels ∨ entry.1.minter = some session
  jobs : ∀ accountId calendarId, WebhookLock.pull accountId calendarId ∉ held ->
    ∀ job, job ∈ before.jobs -> job.waitsFor accountId calendarId = true -> job ∈ after.jobs

/-- A pull of the calendar is pending, due and urgent. -/
def Woken (db : WebhookDb) (accountId : RowId) (calendarId : String) (now : Nat) : Prop :=
  ∃ job, job ∈ db.jobs ∧ job.wakes accountId calendarId now = true

end WebhookDb

def webhookContract : Contract WebhookDb WebhookLock where
  Good := WebhookDb.Consistent
  Guarantee session held before after := WebhookDb.Respects session held before after

/-! ## What the writes keep -/

section Decisions

variable {db after : WebhookDb} {decisions : List Decision} {decision : Decision}
  {channelId : RowId} {number : Nat}

theorem Highest.take (highest : Highest decisions channelId number)
    (accepted : decision.accepted = true) (on : decision.channelId = channelId)
    (above : number ≤ decision.messageNumber) :
    Highest (decision :: decisions) channelId decision.messageNumber := by
  refine ⟨fun other taken also there => ?_,
    .inr ⟨decision, List.mem_cons_self, accepted, on, rfl⟩⟩
  rcases List.mem_cons.mp taken with rfl | old
  · exact Nat.le_refl _
  · exact Nat.le_trans (highest.1 other old also there) above

theorem Highest.skip (highest : Highest decisions channelId number)
    (elsewhere : decision.accepted = true -> decision.channelId ≠ channelId) :
    Highest (decision :: decisions) channelId number := by
  refine ⟨fun other taken accepted there => ?_, highest.2.imp_right ?_⟩
  · rcases List.mem_cons.mp taken with rfl | old
    · exact absurd there (elsewhere accepted)
    · exact highest.1 other old accepted there
  · rintro ⟨other, old, rest⟩
    exact ⟨other, List.mem_cons_of_mem _ old, rest⟩

theorem Reliable.decide (reliable : Reliable db)
    (decided : after.decisions = decision :: db.decisions)
    (once : decision.accepted = true -> ∀ other, other ∈ db.decisions ->
      other.accepted = true -> other.channelId = decision.channelId ->
        other.messageNumber ≠ decision.messageNumber) (rightly : decision.accepted = true <->
      decision.genuine = true ∧ decision.exceeds = true)
    (woken : decision.accepted = true -> decision.change = true ->
      decision.unexpired = true -> decision.woken = true) : Reliable after where
  once := by
    rw [decided, List.filter_cons]
    split
    · next accepted =>
      refine List.nodup_cons.mpr ⟨fun again => ?_, reliable.once⟩
      rcases List.mem_map.mp again with ⟨other, taken, alike⟩
      rcases List.mem_filter.mp taken with ⟨old, also⟩
      obtain ⟨on, number⟩ := Prod.mk.inj alike
      exact once accepted other old also on number
    · exact reliable.once
  exact other member := by
    rw [decided] at member
    rcases List.mem_cons.mp member with rfl | old
    · exact rightly
    · exact reliable.exact other old
  woken other member := by
    rw [decided] at member
    rcases List.mem_cons.mp member with rfl | old
    · exact woken
    · exact reliable.woken other old

theorem ChannelRow.accepts_iff {row : ChannelRow} {notification : Notification} :
    row.accepts notification = true <-> row.channelId = some notification.channelId ∧
        row.channelToken = some notification.channelToken ∧
        row.channelResourceId = some notification.resourceId ∧
        row.lastSeenMessageNumber.getD 0 < notification.messageNumber := by
  simp only [ChannelRow.accepts, Bool.and_eq_true, decide_eq_true_eq, and_assoc]

end Decisions

namespace WebhookDb

variable {db before after : WebhookDb} {session : Nat} {held : List WebhookLock}
  {row : ChannelRow} {accountId channelId : RowId} {calendarId : String}
  {notification : Notification}

theorem Respects.refl (db : WebhookDb) : Respects session held db db :=
  ⟨Nat.le_refl _, fun _ _ => rfl, fun _ => id, fun _ => .inl, fun _ _ _ _ member _ => member⟩

theorem Stored.eq_of_account (stored : Stored db) {other : ChannelRow} (member : row ∈ db.rows)
    (also : other ∈ db.rows) (same : row.accountId = other.accountId) : row = other :=
  List.inj_on_of_nodup_map stored.accounts member also same

theorem Stored.byChannel (stored : Stored db) (member : row ∈ db.rows)
    (same : row.channelId = some channelId) : db.byChannel channelId = some row := by
  have some_row : (db.byChannel channelId).isSome = true :=
    List.find?_isSome.mpr ⟨row, member, decide_eq_true same⟩
  rcases Option.isSome_iff_exists.mp some_row with ⟨found, read⟩
  have listed : found ∈ db.rows := List.mem_of_find?_eq_some read
  have also : found.channelId = some channelId := by simpa using List.find?_some read
  have one := stored.owners channelId _ _ (stored.stored found listed channelId also)
    (stored.stored row member channelId same)
  rw [read, stored.eq_of_account listed member one]

theorem Consistent.with_jobs (consistent : Consistent db) (jobs : List PullJob) :
    Consistent { db with jobs := jobs } :=
  ⟨⟨consistent.accounts, consistent.stored, consistent.owners, consistent.connected⟩,
    consistent.taken, consistent.seen, ⟨consistent.reliable.once, consistent.reliable.exact,
      consistent.reliable.woken⟩⟩

theorem Consistent.drift (consistent : Consistent db) (change : WebhookDrift) :
    Consistent (db.drift change) :=
  ⟨⟨consistent.accounts, consistent.stored, consistent.owners, consistent.connected⟩,
    consistent.taken, consistent.seen, ⟨consistent.reliable.once, consistent.reliable.exact,
      consistent.reliable.woken⟩⟩

theorem Consistent.dropped (consistent : Consistent db)
    (rightly : ¬ ((db.decision notification false).genuine = true ∧
      (db.decision notification false).exceeds = true)) :
    Consistent (db.apply (.decided notification false)) where
  accounts := consistent.accounts
  stored := consistent.stored
  owners := consistent.owners
  connected := consistent.connected
  taken decision member accepted := by
    rcases List.mem_cons.mp member with rfl | old
    · cases accepted
    · exact consistent.taken decision old accepted
  seen row member channelId same :=
    (consistent.seen row member channelId same).skip fun accepted =>
      absurd accepted Bool.false_ne_true
  reliable := consistent.reliable.decide rfl
    (fun accepted => absurd accepted Bool.false_ne_true)
    ⟨fun accepted => absurd accepted Bool.false_ne_true, fun both => absurd both rightly⟩
    fun accepted => absurd accepted Bool.false_ne_true

theorem respects_decided (accepted : Bool) :
    Respects session held db (db.apply (.decided notification accepted)) :=
  ⟨Nat.le_refl _, fun _ _ => rfl, fun _ => id, fun _ => .inl, fun _ _ _ _ member _ => member⟩

theorem Consistent.not_exceeds (consistent : Consistent db)
    (listed : (notification.channelId, accountId) ∈ db.channels)
    (positive : 0 < notification.messageNumber)
    (refused : (db.row? accountId).any (fun row => row.accepts notification) = false) :
    ¬ ((db.decision notification false).genuine = true ∧
      (db.decision notification false).exceeds = true) := by
  rintro ⟨genuine, exceeds⟩
  obtain ⟨row, read⟩ : ∃ row, db.byChannel notification.channelId = some row := by
    refine Option.isSome_iff_exists.mp (Option.isSome_iff_ne_none.mpr fun absent => ?_)
    simp only [decision, absent, Option.any_none, Bool.false_eq_true] at genuine
  have matched : (row.channelToken = some notification.channelToken &&
      row.channelResourceId = some notification.resourceId) = true := by
    simpa only [decision, read, Option.any_some] using genuine
  have member : row ∈ db.rows := List.mem_of_find?_eq_some read
  have same : row.channelId = some notification.channelId := by
    simpa using List.find?_some read
  have owner : row.accountId = accountId :=
    consistent.owners _ _ _ (consistent.stored row member _ same) listed
  have found : db.row? accountId = some row := owner ▸ get_of_mem consistent.accounts member
  rw [Bool.and_eq_true, decide_eq_true_eq, decide_eq_true_eq] at matched
  rw [found, Option.any_some] at refused
  simp only [ChannelRow.accepts, same, matched.1, matched.2, decide_true, Bool.true_and,
    decide_eq_false_iff_not, Nat.not_lt] at refused
  -- the number is not above the last that was seen, which was taken
  rcases (consistent.seen row member _ same).2 with zero | ⟨decision, taken, accepted, on, number⟩
  · omega
  · have below := List.all_eq_true.mp exceeds decision taken
    simp only [accepted, on, Bool.not_true, ne_eq, not_true_eq_false, decide_false,
      Bool.false_or, decide_eq_true_eq] at below
    omega

theorem Consistent.store (consistent : Consistent db)
    (fresh : ∀ accountId, (channelId, accountId) ∉ db.channels) (accountId token : RowId)
    (resourceId : String) (expiresAt : Nat) :
    Consistent (db.apply (.stored accountId channelId token resourceId expiresAt)) where
  accounts := consistent.accounts.map fun row => by split_ifs <;> rfl
  stored row member other same := by
    rcases List.mem_map.mp member with ⟨old, listed, rfl⟩
    split_ifs at same ⊢ with here
    · obtain rfl := Option.some.inj same
      exact here ▸ List.mem_cons_self
    · exact List.mem_cons_of_mem _ (consistent.stored old listed other same)
  owners other first second one two := by
    rcases List.mem_cons.mp one with new | old
    · rcases List.mem_cons.mp two with also | old
      · exact (Prod.mk.inj new).2.trans (Prod.mk.inj also).2.symm
      · exact absurd ((Prod.mk.inj new).1 ▸ old) (fresh second)
    · rcases List.mem_cons.mp two with new | also
      · exact absurd ((Prod.mk.inj new).1 ▸ old) (fresh first)
      · exact consistent.owners other first second old also
  connected row member := by
    rcases List.mem_map.mp member with ⟨old, listed, rfl⟩
    split_ifs <;> exact consistent.connected old listed
  taken decision member accepted := by
    rcases consistent.taken decision member accepted with ⟨owner, listed⟩
    exact ⟨owner, List.mem_cons_of_mem _ listed⟩
  seen row member other same := by
    rcases List.mem_map.mp member with ⟨old, listed, rfl⟩
    split_ifs at same ⊢ with here
    · obtain rfl := Option.some.inj same
      refine ⟨fun decision made accepted on => ?_, .inl rfl⟩
      rcases consistent.taken decision made accepted with ⟨owner, known⟩
      exact absurd (on ▸ known) (fresh owner)
    · exact consistent.seen old listed other same
  reliable := ⟨consistent.reliable.once, consistent.reliable.exact, consistent.reliable.woken⟩

theorem row?_seen_of_ne (number : Nat) {other : RowId} (apart : other ≠ accountId) :
    (db.apply (.seen accountId number)).row? other = db.row? other :=
  get_map_of_ne (fun _ => by rfl) apart

theorem row?_stored_of_ne {other token : RowId} {resourceId : String} {expiresAt : Nat}
    (apart : other ≠ accountId) :
    (db.apply (.stored accountId channelId token resourceId expiresAt)).row? other =
      db.row? other :=
  get_map_of_ne (fun _ => by rfl) apart

theorem Stored.seen (stored : Stored db) (accountId : RowId) (number : Nat) :
    Stored (db.apply (.seen accountId number)) where
  accounts := stored.accounts.map fun row => by split_ifs <;> rfl
  stored row member channelId same := by
    rcases List.mem_map.mp member with ⟨old, listed, rfl⟩
    split_ifs at same ⊢ <;> exact stored.stored old listed channelId same
  owners := stored.owners
  connected row member := by
    rcases List.mem_map.mp member with ⟨old, listed, rfl⟩
    split_ifs <;> exact stored.connected old listed

theorem Consistent.accept (consistent : Consistent db) (found : db.row? accountId = some row)
    (accepts : row.accepts notification = true) (jobs : List PullJob)
    (woken : notification.resourceState ≠ "sync" ->
      (row.channelExpiresAt.all fun expiresAt => decide (db.clock ≤ expiresAt)) = true ->
        ∀ calendarId, calendarId ∈ row.readCalendarIds ->
          (jobs.any fun job => job.wakes accountId calendarId db.clock) = true) :
    Consistent (apply { db.apply (.seen accountId notification.messageNumber) with jobs := jobs }
      (.decided notification true)) := by
  have member : row ∈ db.rows := mem_of_get found
  have owner : row.accountId = accountId := key_of_get found
  rcases ChannelRow.accepts_iff.mp accepts with ⟨same, token, resource, above⟩
  have stored := consistent.toStored.seen accountId notification.messageNumber
  have listed : { row with lastSeenMessageNumber := some notification.messageNumber } ∈
      (db.apply (.seen accountId notification.messageNumber)).rows :=
    List.mem_map.mpr ⟨row, member, if_pos owner⟩
  have read := stored.byChannel listed same
  have highest := consistent.seen row member _ same
  have below (decision : Decision) (taken : decision ∈ db.decisions)
      (accepted : decision.accepted = true) (on : decision.channelId = notification.channelId) :
      decision.messageNumber < notification.messageNumber :=
    Nat.lt_of_le_of_lt (highest.1 decision taken accepted on) above
  refine ⟨⟨stored.accounts, stored.stored, stored.owners, stored.connected⟩,
    fun decision taken accepted => ?_, fun other also channelId on => ?_, ?_⟩
  · rcases List.mem_cons.mp taken with rfl | old
    · exact ⟨row.accountId, consistent.stored row member _ same⟩
    · exact consistent.taken decision old accepted
  · by_cases here : channelId = notification.channelId
    · subst here
      obtain rfl := Option.some.inj ((stored.byChannel also on).symm.trans read)
      exact highest.take rfl rfl (Nat.le_of_lt above)
    · rcases List.mem_map.mp also with ⟨old, before, rfl⟩
      have elsewhere : old.accountId ≠ accountId := by
        intro alike
        obtain rfl := consistent.eq_of_account before member (alike.trans owner.symm)
        rw [if_pos alike] at on
        exact here (Option.some.inj (on.symm.trans same))
      rw [if_neg elsewhere] at on ⊢
      exact (consistent.seen old before channelId on).skip fun _ alike => here alike.symm
  · refine consistent.reliable.decide rfl
      (fun _ other taken accepted on => Nat.ne_of_lt (below other taken accepted on))
      ⟨fun _ => ⟨?_, List.all_eq_true.mpr fun other old => ?_⟩, fun _ => rfl⟩
      fun _ change unexpired => ?_
    · refine (congrArg (Option.any _) read).trans ?_
      simp [token, resource]
    · by_cases accepted : other.accepted = true
      · by_cases on : other.channelId = notification.channelId
        · simp [on, below other old accepted on]
        · simp [on]
      · simp [accepted]
    · refine (congrArg (Option.any _) read).trans ?_
      have unexpired := (congrArg (Option.any _) read).symm.trans unexpired
      simp only [Option.any_some, List.all_eq_true] at unexpired ⊢
      intro calendarId listed
      rw [owner]
      exact woken (of_decide_eq_true change) unexpired calendarId listed

end WebhookDb

theorem webhookContract_steady : webhookContract.Steady webhookStore where
  drift change _ consistent := WebhookDb.Consistent.drift consistent change
  close _ _ db consistent := ⟨consistent, WebhookDb.Respects.refl db⟩

/-! ## Pulls -/

def PullWrites (accountId : RowId) (calendarIds : List String) (pulls : List WebhookWrite) : Prop :=
  ∀ write, write ∈ pulls -> (∃ job, write = WebhookWrite.insertPull job) ∨
    ∃ calendarId now, calendarId ∈ calendarIds ∧
      write = WebhookWrite.raisePull accountId calendarId now

section Pulls

variable {db first second : WebhookDb} {accountId owner : RowId} {calendarId other : String}
  {calendarIds : List String} {now : Nat} {pulls : List WebhookWrite} {job : PullJob}

theorem PullWrites.tail {write : WebhookWrite}
    (writes : PullWrites accountId calendarIds (write :: pulls)) :
    PullWrites accountId calendarIds pulls :=
  fun later member => writes later (List.mem_cons_of_mem _ member)

theorem PullWrites.append {more : List WebhookWrite}
    (writes : PullWrites accountId calendarIds pulls)
    (also : PullWrites accountId calendarIds more) :
    PullWrites accountId calendarIds (pulls ++ more) := by
  intro write member
  rcases List.mem_append.mp member with one | two
  · exact writes write one
  · exact also write two

theorem PullWrites.mono {more : List String} (writes : PullWrites accountId calendarIds pulls)
    (wider : ∀ calendarId, calendarId ∈ calendarIds -> calendarId ∈ more) :
    PullWrites accountId more pulls := by
  intro write member
  rcases writes write member with inserts | ⟨calendarId, now, listed, raises⟩
  · exact .inl inserts
  · exact .inr ⟨calendarId, now, wider calendarId listed, raises⟩

theorem PullWrites.frame (writes : PullWrites accountId calendarIds pulls) (db : WebhookDb) :
    webhookStore.applyAll db pulls =
      { db with jobs := (webhookStore.applyAll db pulls).jobs } := by
  induction pulls generalizing db with
  | nil => rfl
  | cons write rest extend =>
    have here := extend writes.tail (webhookStore.apply db write)
    rw [Store.applyAll_cons, here]
    rcases writes write List.mem_cons_self with ⟨fresh, rfl⟩ | ⟨calendarId, at_, -, rfl⟩ <;> rfl

theorem PullJob.raised_wakes {due : Nat} (wakes : job.wakes owner other due = true) :
    (job.raised now).wakes owner other due = true := by
  simp only [PullJob.wakes, Bool.and_eq_true, decide_eq_true_eq] at wakes ⊢
  exact ⟨⟨wakes.1.1, Nat.le_trans (Nat.min_le_left _ _) wakes.1.2⟩,
    Int.le_trans wakes.2 (Int.le_max_left _ _)⟩

theorem PullJob.waitsFor_of_wakes (wakes : job.wakes owner other now = true) :
    job.waitsFor owner other = true := by
  simp only [PullJob.wakes, Bool.and_eq_true] at wakes
  exact wakes.1.1

theorem WebhookDb.Woken.kept (woken : db.Woken owner other now)
    (writes : PullWrites accountId calendarIds pulls) :
    (webhookStore.applyAll db pulls).Woken owner other now := by
  induction pulls generalizing db with
  | nil => exact woken
  | cons write rest extend =>
    refine extend ?_ writes.tail
    rcases woken with ⟨job, member, wakes⟩
    rcases writes write List.mem_cons_self with ⟨fresh, rfl⟩ | ⟨calendarId, at_, -, rfl⟩
    · exact ⟨job, List.mem_append_left _ member, wakes⟩
    · refine ⟨_, List.mem_map.mpr ⟨job, member, rfl⟩, ?_⟩
      split_ifs
      · exact PullJob.raised_wakes wakes
      · exact wakes

theorem WebhookDb.Woken.later {more : Nat} (woken : db.Woken owner other now)
    (later : now ≤ more) : (db.jobs.any fun job => job.wakes owner other more) = true := by
  rcases woken with ⟨job, member, wakes⟩
  refine List.any_eq_true.mpr ⟨job, member, ?_⟩
  simp only [PullJob.wakes, Bool.and_eq_true, decide_eq_true_eq] at wakes ⊢
  exact ⟨⟨wakes.1.1, Nat.le_trans wakes.1.2 later⟩, wakes.2⟩

/-- The pulls of one calendar that wait in the first are in the second as they are. -/
def Subsumes (accountId : RowId) (calendarId : String) (first second : WebhookDb) : Prop :=
  ∀ job, job ∈ first.jobs -> job.waitsFor accountId calendarId = true -> job ∈ second.jobs

theorem Subsumes.applyAll (subsumes : Subsumes owner other first second)
    (writes : PullWrites accountId calendarIds pulls) :
    Subsumes owner other (webhookStore.applyAll first pulls)
      (webhookStore.applyAll second pulls) := by
  induction pulls generalizing first second with
  | nil => exact subsumes
  | cons write rest extend =>
    refine extend ?_ writes.tail
    rcases writes write List.mem_cons_self with ⟨fresh, rfl⟩ | ⟨calendarId, at_, -, rfl⟩
    · intro job member waits
      rcases List.mem_append.mp member with old | new
      · exact List.mem_append_left _ (subsumes job old waits)
      · exact List.mem_append_right _ new
    · intro job member waits
      rcases List.mem_map.mp member with ⟨old, listed, rfl⟩
      refine List.mem_map.mpr ⟨old, subsumes old listed ?_, rfl⟩
      split_ifs at waits <;> exact waits

theorem Subsumes.woken (subsumes : Subsumes owner other first second)
    (woken : first.Woken owner other now) : second.Woken owner other now := by
  rcases woken with ⟨job, member, wakes⟩
  exact ⟨job, subsumes job member (PullJob.waitsFor_of_wakes wakes), wakes⟩

theorem PullWrites.spares (writes : PullWrites accountId calendarIds pulls)
    (apart : ∀ calendarId, calendarId ∈ calendarIds ->
      job.waitsFor accountId calendarId = false) (member : job ∈ db.jobs) :
    job ∈ (webhookStore.applyAll db pulls).jobs := by
  induction pulls generalizing db with
  | nil => exact member
  | cons write rest extend =>
    refine extend writes.tail ?_
    rcases writes write List.mem_cons_self with ⟨fresh, rfl⟩ | ⟨calendarId, at_, listed, rfl⟩
    · exact List.mem_append_left _ member
    · refine List.mem_map.mpr ⟨job, member, ?_⟩
      rw [apart calendarId listed]
      rfl

theorem woken_enqueue (id : RowId) :
    (webhookStore.applyAll db (db.enqueue id accountId calendarId now)).Woken accountId
      calendarId now := by
  unfold WebhookDb.enqueue
  split
  · next waiting =>
    rcases List.any_eq_true.mp waiting with ⟨job, member, waits⟩
    refine ⟨job.raised now, List.mem_map.mpr ⟨job, member, if_pos waits⟩, ?_⟩
    have still : (job.raised now).waitsFor accountId calendarId = true := waits
    simp only [PullJob.wakes, still, Bool.true_and, Bool.and_eq_true, decide_eq_true_eq]
    exact ⟨Nat.min_le_right _ _, Int.le_max_right _ _⟩
  · refine ⟨_, List.mem_append_right _ List.mem_cons_self, ?_⟩
    simp [PullJob.wakes, PullJob.waitsFor]

theorem pullWrites_enqueue (id : RowId) (listed : calendarId ∈ calendarIds) :
    PullWrites accountId calendarIds (db.enqueue id accountId calendarId now) := by
  unfold WebhookDb.enqueue
  intro write member
  split at member
  · exact .inr ⟨calendarId, now, listed, List.mem_singleton.mp member⟩
  · exact .inl ⟨_, List.mem_singleton.mp member⟩

theorem PullJob.key_eq (waits : job.waitsFor owner other = true)
    (also : job.waitsFor accountId calendarId = true) : owner = accountId ∧ other = calendarId := by
  simp only [PullJob.waitsFor, Bool.and_eq_true, decide_eq_true_eq] at waits also
  exact ⟨waits.1.2.symm.trans also.1.2, waits.2.symm.trans also.2⟩

end Pulls

/-! ## What the programs do -/

section Programs

open Contract

variable {permits : Unit -> WebhookDb -> Prop} {session : Nat} {db : WebhookDb}
  {held : List WebhookLock} {row : ChannelRow} {notification : Notification}
  {begun mark : Nat} {pulls : List WebhookWrite} {calendarIds : List String}

private abbrev regardless (_ : WebhookDb) : Prop := True

private theorem stable_regardless (session : Nat) (held : List WebhookLock) :
    Stable webhookContract webhookStore session held regardless :=
  Stable.const session held True

theorem respects_of_disturbs {before after : WebhookDb}
    (disturbed : webhookContract.Disturbs webhookStore session held before after) :
    ∃ other theirs, other ≠ session ∧ webhookStore.Compatible held theirs ∧
      before.Respects other theirs after := by
  rcases disturbed with ⟨-, -, ⟨change, rfl⟩ | ⟨other, theirs, different, apart, respects⟩⟩
  · exact ⟨session + 1, [], Nat.succ_ne_self session,
      (Store.Compatible.nil_left webhookStore held).symm, Nat.le_add_right _ _, fun _ _ => rfl,
      fun _ => id, fun _ => .inl, fun _ _ _ _ member _ => member⟩
  · exact ⟨other, theirs, different, apart, respects⟩

/-- The row is locked and taken over, and the pulls of some calendars are queued. -/
structure Taking (row : ChannelRow) (number begun mark : Nat) (pulls : List WebhookWrite)
    (calendarIds : List String) (db : WebhookDb) : Prop where
  found : db.row? row.accountId = some row
  clock : mark ≤ db.clock
  woken : ∀ calendarId, calendarId ∈ calendarIds ->
    (webhookStore.applyAll db (.seen row.accountId number :: pulls)).Woken row.accountId
      calendarId begun

/-- The locks of the row and of the pulls. -/
structure TakingLocks (row : ChannelRow) (calendarIds : List String) (held : List WebhookLock) :
    Prop where
  locked : WebhookLock.integration row.accountId ∈ held
  pulls : ∀ calendarId, calendarId ∈ calendarIds ->
    WebhookLock.pull row.accountId calendarId ∈ held

theorem TakingLocks.append (locks : TakingLocks row calendarIds held) (more : List WebhookLock) :
    TakingLocks row calendarIds (more ++ held) :=
  ⟨List.mem_append_right more locks.locked,
    fun calendarId listed => List.mem_append_right more (locks.pulls calendarId listed)⟩

theorem stable_taking {number : Nat} (locks : TakingLocks row calendarIds held)
    (writes : PullWrites row.accountId calendarIds pulls) :
    Stable webhookContract webhookStore session held
      (Taking row number begun mark pulls calendarIds) := by
  intro before after taking disturbed
  rcases respects_of_disturbs disturbed with ⟨other, theirs, -, apart, respects⟩
  refine ⟨?_, Nat.le_trans taking.clock respects.clock, fun calendarId listed => ?_⟩
  · rw [respects.rows _ (apart.not_mem locks.locked (decide_eq_true rfl))]
    exact taking.found
  · have kept : Subsumes row.accountId calendarId before after :=
      respects.jobs _ _ (apart.not_mem (locks.pulls calendarId listed) (decide_eq_true rfl))
    have seen : Subsumes row.accountId calendarId (before.apply (.seen row.accountId number))
        (after.apply (.seen row.accountId number)) := kept
    exact (seen.applyAll writes).woken (taking.woken calendarId listed)

theorem safe_drop (held : List WebhookLock) :
    webhookContract.Safe webhookStore permits session drop held [] db :=
  Safe.last regardless (stable_regardless _ _) trivial
    (fun later _ good => ⟨good, WebhookDb.Respects.refl later⟩) (fun _ _ => trivial)
    (fun _ _ => trivial)

theorem ChannelRow.stale_eq_false {earlier later : Nat} (ordered : earlier ≤ later)
    (unexpired : (row.channelExpiresAt.all fun expiresAt => decide (later ≤ expiresAt)) = true) :
    row.stale earlier = false := by
  unfold ChannelRow.stale
  cases expires : row.channelExpiresAt with
  | none => rfl
  | some expiresAt =>
    rw [expires, Option.all_some, decide_eq_true_eq] at unexpired
    exact decide_eq_false (Nat.not_lt.mpr (Nat.le_trans ordered unexpired))

theorem safe_take (accepts : row.accepts notification = true)
    (locks : TakingLocks row calendarIds held) (writes : PullWrites row.accountId calendarIds pulls)
    (taking : Taking row notification.messageNumber begun mark pulls calendarIds db)
    (earlier : begun ≤ mark) (all : notification.resourceState ≠ "sync" -> row.stale mark = false ->
      ∀ calendarId, calendarId ∈ row.readCalendarIds -> calendarId ∈ calendarIds) :
    webhookContract.Safe webhookStore permits session (take notification) held
      (.seen row.accountId notification.messageNumber :: pulls) db := by
  refine Safe.writing _ (stable_taking locks writes) taking (fun _ _ => trivial)
    fun now taking _ _ => ?_
  refine Safe.last _ (stable_taking (locks.append []) writes) taking
    (fun later taking good => ?_) (fun _ _ => trivial) (fun _ _ => trivial)
  have framed := writes.frame (later.apply (.seen row.accountId notification.messageNumber))
  have applied := congrArg (fun db => WebhookDb.apply db (.decided notification true)) framed
  rw [Store.applyAll_append, show webhookStore.applyAll (webhookStore.applyAll later
    (.seen row.accountId notification.messageNumber :: pulls)) [.decided notification true] = _
      from applied]
  refine ⟨WebhookDb.Consistent.accept good taking.found accepts _
    fun change unexpired calendarId listed => ?_, ?_⟩
  · have fresh := ChannelRow.stale_eq_false taking.clock unexpired
    exact (taking.woken calendarId (all change fresh calendarId listed)).later
      (Nat.le_trans earlier taking.clock)
  · refine ⟨Nat.le_refl _, fun other free => ?_, fun _ => id, fun _ => .inl,
      fun owner calendarId free job member waits => ?_⟩
    · refine WebhookDb.row?_seen_of_ne _ fun same => free ?_
      exact same ▸ (locks.append []).locked
    · refine writes.spares (fun other listed => Bool.eq_false_iff.mpr fun also => free ?_) member
      obtain ⟨rfl, rfl⟩ := PullJob.key_eq waits also
      exact (locks.append []).pulls calendarId listed

theorem Taking.enqueue {number : Nat}
    (taking : Taking row number begun mark pulls calendarIds db) (id : RowId)
    (calendarId : String) : Taking row number begun mark (pulls ++
        (webhookStore.applyAll db (.seen row.accountId number :: pulls)).enqueue id row.accountId
          calendarId begun) (calendarId :: calendarIds) db := by
  refine ⟨taking.found, taking.clock, fun other listed => ?_⟩
  rw [← List.cons_append, Store.applyAll_append]
  rcases List.mem_cons.mp listed with rfl | old
  · exact woken_enqueue id
  · exact (taking.woken other old).kept
      (pullWrites_enqueue id (List.mem_singleton_self calendarId))

theorem safe_enqueuePulls (accepts : row.accepts notification = true) (earlier : begun ≤ mark)
    (remaining : List String) (covers : ∀ calendarId, calendarId ∈ row.readCalendarIds ->
      calendarId ∈ calendarIds ∨ calendarId ∈ remaining) (locks : TakingLocks row calendarIds held)
    (writes : PullWrites row.accountId calendarIds pulls)
    (taking : Taking row notification.messageNumber begun mark pulls calendarIds db) :
    webhookContract.Safe webhookStore permits session
      (enqueuePulls session row.accountId begun (take notification) remaining) held
      (.seen row.accountId notification.messageNumber :: pulls) db := by
  induction remaining generalizing calendarIds pulls held db with
  | nil =>
    exact safe_take accepts locks writes taking earlier fun _ _ calendarId listed =>
      (covers calendarId listed).resolve_right List.not_mem_nil
  | cons calendarId rest extend =>
    refine Safe.writing _ (stable_taking locks writes) taking (fun _ _ => trivial)
      fun now taking _ _ => ?_
    rw [List.cons_append]
    refine extend (fun other listed => ?_) ⟨?_, fun other listed => ?_⟩ ?_
      (taking.enqueue _ calendarId)
    · rcases covers other listed with done | left
      · exact .inl (List.mem_cons_of_mem _ done)
      · rcases List.mem_cons.mp left with rfl | later
        · exact .inl List.mem_cons_self
        · exact .inr later
    · exact List.mem_cons_of_mem _ locks.locked
    · rcases List.mem_cons.mp listed with rfl | old
      · exact List.mem_cons_self
      · exact List.mem_cons_of_mem _ (locks.pulls other old)
    · exact (writes.mono fun _ => List.mem_cons_of_mem _).append
        (pullWrites_enqueue _ List.mem_cons_self)

theorem safe_accept (accepts : row.accepts notification = true)
    (connected : row.syncState ≠ .disconnected)
    (locked : WebhookLock.integration row.accountId ∈ held)
    (found : db.row? row.accountId = some row) (earlier : begun ≤ mark) (clock : mark ≤ db.clock) :
    webhookContract.Safe webhookStore permits session
      (accept session notification row begun mark) held [] db := by
  have locks : TakingLocks row [] held := ⟨locked, fun _ listed => absurd listed List.not_mem_nil⟩
  have writes : PullWrites row.accountId [] [] := fun _ member => absurd member List.not_mem_nil
  have taking : Taking row notification.messageNumber begun mark [] [] db :=
    ⟨found, clock, fun _ listed => absurd listed List.not_mem_nil⟩
  refine Safe.writing _ (stable_taking locks writes) taking (fun _ _ => trivial)
    fun now taking _ _ => ?_
  rw [List.nil_append]
  split
  · exact safe_enqueuePulls accepts earlier row.readCalendarIds (fun _ => .inr)
      (locks.append []) writes taking
  · next quiet =>
    exact safe_take accepts (locks.append []) writes taking earlier fun change fresh =>
      absurd ⟨change, fresh, connected⟩ quiet

/-- What a webhook knows of the channel while it waits for the row. -/
structure Waiting (channelId accountId : RowId) (begun : Nat) (db : WebhookDb) : Prop where
  clock : begun ≤ db.clock
  listed : (channelId, accountId) ∈ db.channels

theorem stable_clock (session begun : Nat) (held : List WebhookLock) :
    Stable webhookContract webhookStore session held fun db => begun ≤ db.clock := by
  intro before after earlier disturbed
  rcases respects_of_disturbs disturbed with ⟨other, theirs, -, -, respects⟩
  exact Nat.le_trans earlier respects.clock

theorem stable_waiting (session : Nat) (channelId accountId : RowId) (begun : Nat)
    (held : List WebhookLock) :
    Stable webhookContract webhookStore session held (Waiting channelId accountId begun) := by
  intro before after waiting disturbed
  rcases respects_of_disturbs disturbed with ⟨other, theirs, -, -, respects⟩
  exact ⟨Nat.le_trans waiting.clock respects.clock, respects.stored _ waiting.listed⟩

theorem safe_locked {accountId : RowId} (positive : 0 < notification.messageNumber)
    (waiting : Waiting notification.channelId accountId begun db)
    (locked : WebhookLock.integration accountId ∈ held) :
    webhookContract.Safe webhookStore permits session
      (.call ()
        (fun now _ =>
          if (now.row? accountId).any fun row => row.accepts notification then []
          else [.decided notification false])
        fun now _ =>
          match now.row? accountId with
          | none => drop
          | some row =>
            if row.accepts notification then accept session notification row begun now.clock
            else drop) held [] db := by
  refine Safe.call _ (stable_waiting session _ _ _ _) waiting
    (fun now waiting good _ _ => ?_) fun now waiting good _ _ => ?_
  · split_ifs with accepted
    · exact ⟨good, WebhookDb.Respects.refl now⟩
    · have refused := Bool.eq_false_iff.mpr accepted
      exact ⟨WebhookDb.Consistent.dropped good
        (WebhookDb.Consistent.not_exceeds good waiting.listed positive refused),
        WebhookDb.respects_decided false⟩
  · cases found : now.row? accountId with
    | none => exact safe_drop held
    | some row =>
      by_cases accepts : row.accepts notification = true
      · have owner : row.accountId = accountId := key_of_get found
        subst owner
        simp only [Option.any_some, accepts, if_true, Store.applyAll_nil]
        exact safe_accept accepts (good.connected row (mem_of_get found)) locked found
          waiting.clock (Nat.le_refl _)
      · simp only [Option.any_some, accepts, Bool.false_eq_true, if_false]
        exact safe_drop held

theorem safe_post (notification : Notification) :
    webhookContract.Safe webhookStore permits session (post session notification) [] [] db := by
  unfold post
  split
  · trivial
  · next formed =>
    have positive : 0 < notification.messageNumber :=
      Nat.pos_of_ne_zero fun zero => formed (.inr zero)
    refine Safe.reading regardless (stable_regardless _ _) trivial (fun _ _ => trivial)
      fun begun _ _ _ => ?_
    refine Safe.call _ (stable_clock session begun.clock []) (Nat.le_refl _)
      (fun now _ good _ _ => ?_) fun now later good _ _ => ?_
    · split_ifs with unknown
      · refine ⟨WebhookDb.Consistent.dropped good ?_, WebhookDb.respects_decided false⟩
        rintro ⟨genuine, -⟩
        have absent := Option.isNone_iff_eq_none.mp unknown
        simp only [WebhookDb.decision, absent, Option.any_none, Bool.false_eq_true] at genuine
      · exact ⟨good, WebhookDb.Respects.refl now⟩
    · cases found : now.byChannel notification.channelId with
      | none => exact safe_drop []
      | some row =>
        have same : row.channelId = some notification.channelId := by
          simpa using List.find?_some found
        have waiting : Waiting notification.channelId row.accountId begun.clock now :=
          ⟨later, good.stored row (List.mem_of_find?_eq_some found) _ same⟩
        simp only [Option.isNone_some, Bool.false_eq_true, if_false, Store.applyAll_nil]
        exact Safe.acquiring _ (stable_waiting session _ _ _ _) waiting (fun _ _ => trivial)
          fun _ waiting _ _ => safe_locked positive waiting List.mem_cons_self

def Fresh (session : Nat) (db : WebhookDb) : Prop :=
  ∀ accountId, (RowId.minted session 0, accountId) ∉ db.channels

theorem stable_fresh (held : List WebhookLock) :
    Stable webhookContract webhookStore session held (Fresh session) := by
  intro before after fresh disturbed accountId stored
  rcases respects_of_disturbs disturbed with ⟨other, theirs, different, -, respects⟩
  rcases respects.minted _ stored with old | minted
  · exact fresh accountId old
  · exact different (Option.some.inj minted).symm

theorem safe_setupChannelForIntegration (fresh : Fresh session db) (accountId : RowId)
    (resourceId : String) (expiresAt : Nat) : webhookContract.Safe webhookStore permits session
      (setupChannelForIntegration session accountId resourceId expiresAt) [] [] db := by
  refine Safe.reading _ (stable_fresh []) fresh (fun _ _ => trivial) fun now fresh _ _ => ?_
  split
  · trivial
  · split
    · trivial
    · refine Safe.writing _ (stable_fresh []) fresh (fun _ _ => trivial) fun now fresh _ _ => ?_
      refine Safe.last _ (stable_fresh _) fresh (fun later fresh good => ?_)
        (fun _ _ => trivial) (fun _ _ => trivial)
      refine ⟨WebhookDb.Consistent.store good fresh accountId _ resourceId expiresAt, ?_⟩
      refine ⟨Nat.le_refl _, fun other free => ?_, fun _ => List.mem_cons_of_mem _,
        fun entry listed => ?_, fun _ _ _ _ member _ => member⟩
      · refine WebhookDb.row?_stored_of_ne fun same => free ?_
        exact same ▸ List.mem_cons_self
      · rcases List.mem_cons.mp listed with rfl | old
        · exact .inr rfl
        · exact .inl old

theorem safe_claimNextJob (id accountId : RowId) (calendarId : String) :
    webhookContract.Safe webhookStore permits session (claimNextJob id accountId calendarId)
      [] [] db := by
  refine Safe.writing regardless (stable_regardless _ _) trivial (fun _ _ => trivial)
    fun now _ _ _ => ?_
  refine Safe.last regardless (stable_regardless _ _) trivial (fun later _ good => ?_)
    (fun _ _ => trivial) (fun _ _ => trivial)
  rw [List.nil_append]
  split
  · refine ⟨WebhookDb.Consistent.with_jobs good _, Nat.le_refl _, fun _ _ => rfl,
      fun _ listed => listed, fun _ => .inl, fun owner other free job member waits => ?_⟩
    refine List.mem_map.mpr ⟨job, member, if_neg fun chosen => free ?_⟩
    obtain ⟨rfl, rfl⟩ := PullJob.key_eq waits (Bool.and_eq_true_iff.mp chosen).2
    exact List.mem_cons_self
  · exact ⟨good, WebhookDb.Respects.refl later⟩

theorem WebhookRequest.safe (fresh : Fresh session db) (request : WebhookRequest) :
    webhookContract.Safe webhookStore permits session (request.program session) [] [] db := by
  cases request with
  | post notification => exact safe_post notification
  | setupChannel accountId resourceId expiresAt =>
    exact safe_setupChannelForIntegration fresh accountId resourceId expiresAt
  | claim id accountId calendarId => exact safe_claimNextJob id accountId calendarId

end Programs

namespace WebhookOpening

variable (opening : WebhookOpening)

theorem mem_channels {channelId accountId : RowId} :
    (channelId, accountId) ∈ opening.db.channels <->
      ∃ row, row ∈ opening.rows ∧ row.channelId = some channelId ∧ row.accountId = accountId := by
  refine List.mem_filterMap.trans ⟨?_, ?_⟩
  · rintro ⟨row, member, same⟩
    rcases Option.map_eq_some_iff.mp same with ⟨_, has, same⟩
    obtain ⟨rfl, rfl⟩ := Prod.mk.inj same
    exact ⟨row, member, has, rfl⟩
  · rintro ⟨row, member, has, rfl⟩
    exact ⟨row, member, Option.map_eq_some_iff.mpr ⟨channelId, has, rfl⟩⟩

theorem consistent : opening.db.Consistent where
  accounts := opening.accounts
  stored row member channelId same := opening.mem_channels.mpr ⟨row, member, same, rfl⟩
  owners channelId first second one two := by
    rcases opening.mem_channels.mp one with ⟨row, member, has, rfl⟩
    rcases opening.mem_channels.mp two with ⟨other, also, same, rfl⟩
    rw [opening.channels row member other also channelId has same]
  connected := opening.connected
  taken _ member := absurd member List.not_mem_nil
  seen row member channelId _ := by
    rw [opening.unseen row member]
    exact ⟨fun _ made => absurd made List.not_mem_nil, .inl rfl⟩
  reliable := ⟨List.nodup_nil, fun _ member => absurd member List.not_mem_nil,
    fun _ member => absurd member List.not_mem_nil⟩

theorem fresh (session : Nat) : Fresh session opening.db := by
  intro accountId listed
  rcases opening.mem_channels.mp listed with ⟨row, member, has, -⟩
  cases opening.seeded row member _ has

end WebhookOpening

/-- However notifications, setups and workers come between each other, no notification is
replayed and no wake-up is lost. -/
theorem notifications_reliable {opening : WebhookOpening} {requests : Nat -> WebhookRequest}
    {last : WebhookState}
    (reached : Reaches webhookStore (fun _ _ => True) (webhookOpening opening requests) last) :
    Reliable last.db := by
  have sound : Contract.Sound webhookContract webhookStore (fun _ _ => True)
      (webhookOpening opening requests) :=
    Contract.Sound.start opening.consistent fun session =>
      (requests session).safe (opening.fresh session)
  exact (sound.reaches webhookContract_steady reached).1.good.reliable

private def backedOff : WebhookOpening where
  clock := 50
  rows := [⟨.seeded 0, some (.seeded 1), some (.seeded 2), some "calendar", some 900, none,
    ["primary"], .active⟩]
  jobs := [⟨.seeded 3, .seeded 0, "primary", 0, .pending, 4, 400, some 40⟩]
  accounts := List.nodup_singleton _
  channels := by decide
  seeded := by decide
  unseen := by decide
  connected := by decide

/-- A notification comes twice while a worker claims the pull and the channel is set up anew. -/
private def twice : Nat -> WebhookRequest
  | 0 => .post ⟨.seeded 1, .seeded 2, "calendar", "exists", 7⟩
  | 1 => .post ⟨.seeded 1, .seeded 2, "calendar", "exists", 7⟩
  | 2 => .claim (.seeded 3) (.seeded 0) "primary"
  | _ => .setupChannel (.seeded 0) "calendar" 2000

theorem notifications_reliable_twice : ∃ last : WebhookState,
      (last.db.decisions.map fun decision => (decision.accepted, decision.woken)) =
          [(false, true), (true, true)] ∧ Reliable last.db := by
  rcases exists_of_play webhookStore (webhookOpening backedOff twice)
    (Event.steps 0 5 () ++ Event.steps 1 2 () ++ Event.steps 0 3 () ++ Event.steps 1 3 () ++
      Event.steps 2 2 () ++ Event.steps 3 3 ())
    (fun db => (db.decisions.map fun decision => (decision.accepted, decision.woken)) =
      [(false, true), (true, true)])
    (by decide +kernel) with ⟨last, reached, decided⟩
  exact ⟨last, decided, notifications_reliable reached⟩

end ChannelWebhook

end LevelChannel
