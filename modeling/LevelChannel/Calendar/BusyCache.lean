import LevelChannel.Calendar.Disconnect
import LevelChannel.Calendar.Reconcile
import LevelChannel.Tables.Log

namespace LevelChannel.Calendar

/-!
# The busy cache

A pull carries the events of Google's calendar into the table of busy intervals.  A full pull
asks for the events between a day ago and thirty days ahead and replaces the table.  A delta
pull sends a sync token and is told the events that have changed since the token was issued;
it deletes the rows of those that were cancelled and upserts the others.  The window moves
on with the time, and a delta pull says nothing about what has come into it unchanged.

This is about one calendar of one teacher.  Instants are in milliseconds.
-/

/-- When an event starts or ends, with the instant that its text stands for.  A text may
stand for none; the instant of a date is its midnight in Moscow. -/
inductive GoogleEventTimePart where
  | dateTime (instant : Option Nat)
  | date (midnight : Option Nat)
  deriving DecidableEq

/-- A `GoogleRawEvent` as `events.list` returns it. -/
structure ListedEvent where
  id : String
  status : Option GoogleEventStatus
  startPart : Option GoogleEventTimePart
  endPart : Option GoogleEventTimePart
  etag : Option String
  lcOrigin : Option String
  lcSlotId : Option String
  lcEpoch : Option String
  deriving DecidableEq

structure ParsedBusyInterval where
  externalEventId : String
  startAt : Nat
  endAt : Nat
  isAllDay : Bool
  etag : Option String
  lcOrigin : Option String
  lcSlotId : Option String
  lcEpoch : Option String
  deriving DecidableEq

def timePartToUtcIso : GoogleEventTimePart -> Option (Nat × Bool)
  | .dateTime instant => instant.map fun ms => (ms, false)
  | .date midnight => midnight.map fun ms => (ms, true)

def shapeEvent (raw : ListedEvent) : Option ParsedBusyInterval :=
  if raw.id = "" ∨ raw.status = some .cancelled then none
  else
    match raw.startPart.bind timePartToUtcIso, raw.endPart.bind timePartToUtcIso with
    | some (startAt, startAllDay), some (endAt, endAllDay) =>
      if endAt ≤ startAt then none
      else
        some {
          externalEventId := raw.id
          startAt := startAt
          endAt := endAt
          isAllDay := startAllDay || endAllDay
          etag := raw.etag
          lcOrigin := raw.lcOrigin
          lcSlotId := raw.lcSlotId
          lcEpoch := raw.lcEpoch }
    | _, _ => none

def isCancelledTombstone (raw : ListedEvent) : Bool :=
  raw.id ≠ "" ∧ raw.status = some .cancelled

/-- One response of `events.list`. -/
structure EventsPage where
  items : List ListedEvent
  hasNextPage : Bool
  nextSyncToken : Option String

structure PullValue where
  intervals : List ParsedBusyInterval
  cancelledEventIds : List String
  nextSyncToken : Option String

def intervalsOf (isDelta : Bool) (items : List ListedEvent) : List ParsedBusyInterval :=
  (items.filter fun item => !(isDelta && isCancelledTombstone item)).filterMap shapeEvent

def cancelledOf (isDelta : Bool) (items : List ListedEvent) : List String :=
  if isDelta then (items.filter isCancelledTombstone).map ListedEvent.id else []

def pullPages (isDelta : Bool) : Nat -> PullValue -> List EventsPage -> Option PullValue
  | 0, _, _ => none
  | _ + 1, _, [] => none
  | left + 1, value, page :: pages =>
    let read : PullValue :=
      { value with
        intervals := value.intervals ++ intervalsOf isDelta page.items
        cancelledEventIds := value.cancelledEventIds ++ cancelledOf isDelta page.items }
    if page.hasNextPage then pullPages isDelta left read pages
    else some { read with nextSyncToken := page.nextSyncToken.filter fun token => token ≠ "" }

def isDelta (syncToken : Option String) : Bool :=
  syncToken.any fun token => token ≠ ""

def pullBusyIntervalsForCalendar (syncToken : Option String) (pages : List EventsPage) :
    Option PullValue :=
  pullPages (isDelta syncToken) 10 ⟨[], [], none⟩ pages

def dayMs : Nat := 24 * 60 * 60000

def ListedEvent.instants (event : ListedEvent) : Option (Nat × Nat) :=
  match event.startPart.bind timePartToUtcIso, event.endPart.bind timePartToUtcIso with
  | some (startAt, _), some (endAt, _) => some (startAt, endAt)
  | _, _ => none

/-- Some of the time from `startAt` to `endAt` is between a day before and thirty days
after. -/
def Overlaps (now startAt endAt : Nat) : Prop :=
  startAt < now + 30 * dayMs ∧ now < endAt + dayMs

instance (now startAt endAt : Nat) : Decidable (Overlaps now startAt endAt) :=
  inferInstanceAs (Decidable (_ ∧ _))

/-- `timeMin` and `timeMax` let the event through. -/
def ListedEvent.withinWindow (event : ListedEvent) (now : Nat) : Bool :=
  event.instants.all fun times => Overlaps now times.1 times.2

/-- What Google answers about a calendar, given all versions of its events so far.  Of a sync
token it knows how many of them there were when it was issued. -/
def eventsList (issuedAt : String -> Nat) (syncToken : Option String) (now : Nat)
    (log : List ListedEvent) : List ListedEvent :=
  match syncToken with
  | some token =>
    if token = "" then window else Tables.latest ListedEvent.id (log.drop (issuedAt token))
  | none => window
where
  window : List ListedEvent :=
    (Tables.latest ListedEvent.id log).filter fun event =>
      event.status ≠ some .cancelled ∧ event.withinWindow now

def paged : List EventsPage -> Bool
  | [] => false
  | [page] => !page.hasNextPage
  | page :: pages => page.hasNextPage && paged pages

/-- The pages of an answer, the last one with a sync token for what Google knows now. -/
def Answers (issuedAt : String -> Nat) (syncToken : Option String) (now : Nat)
    (log : List ListedEvent) (pages : List EventsPage) : Prop :=
  paged pages = true ∧
    (pages.flatMap EventsPage.items).Perm (eventsList issuedAt syncToken now log) ∧
      ((pages.getLast?.bind EventsPage.nextSyncToken).any fun token =>
        token ≠ "" ∧ issuedAt token = log.length) = true

instance (issuedAt : String -> Nat) (syncToken : Option String) (now : Nat)
    (log : List ListedEvent) (pages : List EventsPage) :
    Decidable (Answers issuedAt syncToken now log pages) :=
  inferInstanceAs (Decidable (_ ∧ _ ∧ _))

/-! ## Pulls -/

/-- The columns of `teacher_external_busy_intervals` that a pull computes, less the encrypted
summary and `is_writable_in_source`. -/
structure BusyInterval where
  externalEventId : String
  startAt : Nat
  endAt : Nat
  isAllDay : Bool
  isOwnEvent : Bool
  isOrphanSelf : Bool
  etag : Option String
  fetchedAt : Nat
  deriving DecidableEq

/-- Whether the event is our own, and whether it is one of an earlier connection. -/
def computeOwnership (interval : ParsedBusyInterval) (epoch : String)
    (knownSlotIds : List String) : Bool × Bool :=
  match interval.lcOrigin, interval.lcSlotId, interval.lcEpoch with
  | some "levelchannel", some slotId, some lcEpoch =>
    if slotId = "" ∨ lcEpoch = "" ∨ slotId ∉ knownSlotIds then (false, false)
    else if lcEpoch = epoch then (true, false)
    else (false, true)
  | _, _, _ => (false, false)

/-- The row that `upsertInterval` writes. -/
def busyRow (epoch : String) (knownSlotIds : List String) (now : Nat)
    (interval : ParsedBusyInterval) : BusyInterval where
  externalEventId := interval.externalEventId
  startAt := interval.startAt
  endAt := interval.endAt
  isAllDay := interval.isAllDay
  isOwnEvent := (computeOwnership interval epoch knownSlotIds).1
  isOrphanSelf := (computeOwnership interval epoch knownSlotIds).2
  etag := interval.etag
  fetchedAt := now

inductive PullMode where
  | full
  | delta
  deriving DecidableEq

def isActiveTeacher (lastPulledAt : Option Nat) (nowMs : Nat) (booked : Bool) : Bool :=
  (lastPulledAt.any fun pulled => nowMs - pulled ≤ 24 * 60 * 60000) || booked

def pullMode (startedToken : Option String) (teacherActive : Bool) : PullMode :=
  if startedToken.isSome ∧ teacherActive then .delta else .full

/-- What a pull brings back, with the calendar and the time it was read at. -/
structure Fetched where
  value : PullValue
  log : List ListedEvent
  time : Nat

structure Pull where
  startedToken : Option String
  startedEpoch : String
  mode : PullMode
  fetched : Option Fetched

def Pull.syncToken (pull : Pull) : Option String :=
  if pull.mode = .delta then pull.startedToken else none

/-- The calendar and the time of the last successful pull, and those of the last full one. -/
structure LastPull where
  log : List ListedEvent
  time : Nat
  fullLog : List ListedEvent
  fullTime : Nat
  deriving DecidableEq

structure BusyDb where
  integration : IntegrationDb
  booked : Bool
  knownSlotIds : List String
  cache : List BusyInterval
  log : List ListedEvent
  pulls : Nat -> Option Pull
  last : Option LastPull

inductive BusyEvent where
  | tick (passed : Nat)
  | booked (recently : Bool)
  | slots (ids : List String)
  /-- An event of the calendar is created, changed or cancelled. -/
  | change (event : ListedEvent)
  | connect (tokens : GoogleTokens) (readCalendarIds : List String)
      (writeCalendarId : Option String) (epoch : String)
  | disconnect
  | refresh (tokens : GoogleTokens)
  | start (worker : Nat)
  | fetch (worker : Nat) (pages : List EventsPage)
  | syncTokenExpired (worker : Nat)
  | fail (worker : Nat)
  | commit (worker : Nat)

/-- The checks at the start of `runPullForCalendar`. -/
def Integration.pullable (row : Integration) (now : Nat) : Bool :=
  row.syncState ≠ .disconnected ∧ (row.accessToken.any fun token => token ≠ "") ∧
    row.tokenExpiresAt.all fun expiresAt => now < expiresAt

/-- The cache after a pull: a full one empties it first, a delta deletes what was cancelled. -/
def mergePull (mode : PullMode) (value : PullValue) (epoch : String)
    (knownSlotIds : List String) (now : Nat) (cache : List BusyInterval) : List BusyInterval :=
  let kept : List BusyInterval :=
    match mode with
    | .full => []
    | .delta => cache.filter fun row => row.externalEventId ∉ value.cancelledEventIds
  (value.intervals.map (busyRow epoch knownSlotIds now)).foldl
    (Tables.upsert BusyInterval.externalEventId) kept

namespace BusyDb

variable (db : BusyDb)

def release (worker : Nat) : BusyDb :=
  { db with pulls := Function.update db.pulls worker none }

def write (write : IntegrationWrite) : BusyDb :=
  { db with integration := db.integration.apply write }

def commit (pull : Pull) (fetched : Fetched) : BusyDb :=
  { db.write (.commitPull pull.startedToken pull.startedEpoch fetched.value.nextSyncToken) with
    cache := mergePull pull.mode fetched.value pull.startedEpoch db.knownSlotIds
      db.integration.now db.cache
    last :=
      match pull.mode with
      | .full => some ⟨fetched.log, fetched.time, fetched.log, fetched.time⟩
      | .delta => db.last.map fun last => { last with log := fetched.log, time := fetched.time } }

/-- One event, where it is possible. -/
def step (issuedAt : String -> Nat) : BusyEvent -> Option BusyDb
  | .tick passed =>
    some { db with integration := { db.integration with now := db.integration.now + passed } }
  | .booked recently => some { db with booked := recently }
  | .slots ids => some { db with knownSlotIds := ids }
  | .change event => if event.id = "" then none else some { db with log := db.log ++ [event] }
  | .connect tokens readCalendarIds writeCalendarId epoch =>
    some (db.write (.connect
      (Integration.initialConnect tokens readCalendarIds writeCalendarId epoch
        db.integration.now)))
  | .disconnect => some (db.write .disconnect)
  | .refresh tokens => some (db.write (.refresh tokens))
  | .start worker =>
    match db.integration.row with
    | none => none
    | some row =>
      if db.pulls worker = none ∧ row.pullable db.integration.now then
        let mode := pullMode row.nextSyncToken
          (isActiveTeacher row.lastPulledAt db.integration.now db.booked)
        some { db with
          pulls := Function.update db.pulls worker
            (some ⟨row.nextSyncToken, row.epoch, mode, none⟩) }
      else none
  | .fetch worker pages =>
    match db.pulls worker with
    | none => none
    | some pull =>
      if pull.fetched = none ∧
          Answers issuedAt pull.syncToken db.integration.now db.log pages then
        match pullBusyIntervalsForCalendar pull.syncToken pages with
        | none => some (db.release worker)
        | some value =>
          some { db with
            pulls := Function.update db.pulls worker
              (some { pull with fetched := some ⟨value, db.log, db.integration.now⟩ }) }
      else none
  | .syncTokenExpired worker =>
    match db.pulls worker with
    | none => none
    | some pull =>
      if pull.fetched = none ∧ isDelta pull.syncToken = true then
        some ((db.write (.expireSyncToken pull.startedToken pull.startedEpoch)).release worker)
      else none
  | .fail worker => some (db.release worker)
  | .commit worker =>
    match db.pulls worker with
    | none => none
    | some pull =>
      match pull.fetched with
      | none => none
      | some fetched =>
        if (db.integration.row.any fun row =>
            row.guarded pull.startedToken pull.startedEpoch) = true then
          some ((db.commit pull fetched).release worker)
        else some (db.release worker)

def play (issuedAt : String -> Nat) (db : BusyDb) : List BusyEvent -> Option BusyDb
  | [] => some db
  | event :: events => (db.step issuedAt event).bind fun after => after.play issuedAt events

end BusyDb

def busyOpening (now : Nat) : BusyDb where
  integration := ⟨none, now, 0, false⟩
  booked := false
  knownSlotIds := []
  cache := []
  log := []
  pulls _ := none
  last := none

end LevelChannel.Calendar
