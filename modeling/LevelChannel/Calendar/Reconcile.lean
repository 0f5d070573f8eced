import LevelChannel.Calendar.Tokens

namespace LevelChannel.Calendar

/-!
# The reconcile sweep

Once a day the sweep asks Google for the event of every bound slot and compares the two.
A slot is unbound when its event is gone, or when a cancelled slot's event belongs to
somebody else.  Of a failure the sweep only sees the untyped value, reads it as a failed
`events.get`, and takes every reason it does not know for an event that is gone.
-/

inductive GoogleEventStatus where
  | confirmed
  | tentative
  | cancelled
  deriving DecidableEq

/-- An event as `events.get` returns it; the stamps are shared extended properties. -/
structure GoogleRawEvent where
  status : Option GoogleEventStatus
  lcSlotId : Option String
  lcEpoch : Option String

inductive EventBody where
  | invalid (message : String)
  | notAnObject
  | withoutId
  | object (event : GoogleRawEvent)

/-- What the HTTP call of `events.get` comes to. -/
inductive EventsGet where
  | unreachable (message : String)
  | answered (status : Nat) (body : EventBody)

inductive FetchEventFailure where
  | notFound
  | rateLimited
  | serverError (status : Nat)
  | authExpired
  | forbidden
  | network (message : String)
  | shape (message : String)
  deriving DecidableEq

inductive FetchEventOutcome where
  | found (event : GoogleRawEvent)
  | failed (reason : FetchEventFailure)

def EventBody.shaped : EventBody -> FetchEventOutcome
  | .invalid message => .failed (.shape message)
  | .notAnObject => .failed (.shape "events.get returned non-object")
  | .withoutId => .failed (.shape "events.get returned event without id")
  | .object event => .found event

def fetchEventById : EventsGet -> FetchEventOutcome
  | .unreachable message => .failed (.network message)
  | .answered status body =>
    if 200 ≤ status ∧ status < 300 then body.shaped
    else if status = 404 ∨ status = 410 then .failed .notFound
    else if status = 401 then .failed .authExpired
    else if status = 403 then .failed .forbidden
    else if status = 429 then .failed .rateLimited
    else if 500 ≤ status ∧ status < 600 then .failed (.serverError status)
    else .failed (.shape ("unexpected events.get status " ++ toString status))

/-- The fields of a failed `events.get`. -/
def FetchEventFailure.raw : FetchEventFailure -> RawFailure
  | .notFound => ⟨some "not_found", none, none⟩
  | .rateLimited => ⟨some "rate_limited", none, none⟩
  | .serverError status => ⟨some "server_error", some status, none⟩
  | .authExpired => ⟨some "auth_expired", none, none⟩
  | .forbidden => ⟨some "forbidden", none, none⟩
  | .network message => ⟨some "network", none, some message⟩
  | .shape message => ⟨some "shape", none, some message⟩

/-- What the sweep hands to `withTokenRetry`. -/
def FetchEventOutcome.callResult : FetchEventOutcome -> CallResult GoogleRawEvent
  | .found event => .value event
  | .failed reason => .failed (reason = .authExpired) reason.raw

inductive CandidateStatus where
  | booked
  | cancelled
  deriving DecidableEq

/-- The columns of `lesson_slots` that the sweep reads and writes; `status` is none for a
slot that is neither booked nor cancelled. -/
structure BoundSlot where
  status : Option CandidateStatus
  externalEventId : Option String
  externalCalendarId : Option String
  integrationEpoch : Option String
  lastReconciledAt : Option Nat
  externalSyncFailedAt : Option Nat
  cancelRepushCount : Nat
  deriving DecidableEq

/-- `CandidateSlot`: what the sweep has read of a slot. -/
structure CandidateSlot where
  id : String
  externalCalendarId : String
  externalEventId : String
  integrationEpoch : Option String
  status : CandidateStatus

inductive CancelGateSkipReason where
  | inflight
  | recentSuccess
  | terminalNoEnvChange
  deriving DecidableEq

inductive ReconcileSlotOutcome where
  | healthy
  | orphanSelf
  | unboundAfterDriftResolved
  | unboundAfterSyncFailure
  | unboundAfterDriftResolvedAlien
  | cancelReenqueued
  | cancelGateSkipped (reason : CancelGateSkipReason)
  | skippedRateLimited
  | skippedServerError (status : Option Nat)
  | skippedAuthExpired
  | skippedForbidden
  | skippedNetwork (message : Option String)
  | skippedShape (message : Option String)
  | skippedIntegrationMissing
  | skippedIntegrationDisconnected
  | skippedTokenRefreshFailed (reason : String)
  | skippedStateChanged
  deriving DecidableEq

def CandidateSlot.matches (candidate : CandidateSlot) (slot : BoundSlot) : Bool :=
  slot.status = some candidate.status ∧
    slot.externalEventId = some candidate.externalEventId ∧
      slot.externalCalendarId = some candidate.externalCalendarId

/-- The row `unbindSlot` leaves. -/
def BoundSlot.unbound (slot : BoundSlot) (markSyncFailed : Bool) (now : Nat) : BoundSlot :=
  { slot with
    externalEventId := none
    externalCalendarId := none
    integrationEpoch := none
    lastReconciledAt := some now
    externalSyncFailedAt :=
      if markSyncFailed then slot.externalSyncFailedAt.or (some now)
      else slot.externalSyncFailedAt }

/-- `unbindSlot`, and whether it updated the row. -/
def unbindSlot (candidate : CandidateSlot) (markSyncFailed : Bool) (now : Nat) :
    Option BoundSlot -> Option BoundSlot × Bool
  | some slot =>
    if candidate.matches slot then (some (slot.unbound markSyncFailed now), true)
    else (some slot, false)
  | none => (none, false)

def bumpReconciledAt (now : Nat) (slot : Option BoundSlot) : Option BoundSlot :=
  slot.map fun row => { row with lastReconciledAt := some now }

def bumpReconciledAndCancelRepush (now : Nat) (slot : Option BoundSlot) : Option BoundSlot :=
  slot.map fun row =>
    { row with lastReconciledAt := some now, cancelRepushCount := row.cancelRepushCount + 1 }

/-! ## One slot of the sweep -/

inductive PushJobStatus where
  | pending
  | inProgress
  | succeeded
  | terminalFailure
  | cancelledByDependent
  deriving DecidableEq

structure LatestDeletePushJob where
  status : PushJobStatus
  lastAttemptAt : Option Nat

def reenqueueAfterSuccessMs : Nat := 6 * 60 * 60000

/-- `decideCancelReenqueue`; none is to enqueue. -/
def decideCancelReenqueue (latestJob : Option LatestDeletePushJob)
    (lastReconnectedAt : Option Nat) (nowMs : Nat) : Option CancelGateSkipReason :=
  match latestJob with
  | none => none
  | some job =>
    match job.status, job.lastAttemptAt with
    | .pending, _ => some .inflight
    | .inProgress, _ => some .inflight
    | .cancelledByDependent, _ => none
    | .succeeded, none => none
    | .succeeded, some attemptAt =>
      if attemptAt + reenqueueAfterSuccessMs < nowMs then none else some .recentSuccess
    | .terminalFailure, none => none
    | .terminalFailure, some attemptAt =>
      if lastReconnectedAt.any fun reconnectedAt => attemptAt < reconnectedAt then none
      else some .terminalNoEnvChange

/-- What the sweep finds while it looks at one slot, and the slot itself at the moment the
sweep writes it.  Between the reading of the candidate and that moment anybody may have
changed it. -/
structure Findings where
  integration : Option Integration
  /-- The tokens and the call of the second attempt are asked for after a 401. -/
  tokens : Bool -> TokenAnswers
  eventsGet : Bool -> EventsGet
  latestJob : Option LatestDeletePushJob
  /-- `enqueuePushJob` inserted the job: no other one is pending. -/
  inserted : Bool
  slot : Option BoundSlot

/-- What comes of one slot: the row, and the calendar of the delete job if one was
enqueued. -/
structure Reconciled where
  outcome : ReconcileSlotOutcome
  slot : Option BoundSlot
  enqueued : Option String := none

variable (candidate : CandidateSlot) (findings : Findings) (nowMs : Nat)

/-- Both unbindings of `reconcileSlot` for an event that is gone. -/
def reconcileGone : Reconciled :=
  let markSyncFailed : Bool := candidate.status = .booked
  let written := unbindSlot candidate markSyncFailed nowMs findings.slot
  if written.2 then
    { outcome :=
        if markSyncFailed then .unboundAfterSyncFailure else .unboundAfterDriftResolved
      slot := written.1 }
  else { outcome := .skippedStateChanged, slot := written.1 }

/-- The branches of `reconcileSlot` for a failure, in their order. -/
def reconcileFailure (raw : RawFailure) : Reconciled :=
  match raw.reason with
  | none => { outcome := .skippedTokenRefreshFailed "transient", slot := findings.slot }
  | some reason =>
    if reason = "rate_limited" then { outcome := .skippedRateLimited, slot := findings.slot }
    else if reason = "server_error" then
      { outcome := .skippedServerError raw.status, slot := findings.slot }
    else if reason = "auth_expired" then
      { outcome := .skippedAuthExpired, slot := findings.slot }
    else if reason = "forbidden" then { outcome := .skippedForbidden, slot := findings.slot }
    else if reason = "network" then
      { outcome := .skippedNetwork raw.message, slot := findings.slot }
    else if reason = "shape" then
      { outcome := .skippedShape raw.message, slot := findings.slot }
    else
      -- what is left is taken for `not_found`
      reconcileGone candidate findings nowMs

def stampMismatch (event : GoogleRawEvent) : Bool :=
  event.lcSlotId ≠ some candidate.id ∨
    (candidate.integrationEpoch.isSome ∧ event.lcEpoch ≠ candidate.integrationEpoch)

/-- `reconcileSlot` on a cancelled slot whose event is still there. -/
def reconcileCancelled (integration : Integration) (event : GoogleRawEvent) : Reconciled :=
  if stampMismatch candidate event then
    let written := unbindSlot candidate false nowMs findings.slot
    if written.2 then { outcome := .unboundAfterDriftResolvedAlien, slot := written.1 }
    else { outcome := .skippedStateChanged, slot := written.1 }
  else
    match decideCancelReenqueue findings.latestJob integration.lastReconnectedAt nowMs with
    | some reason =>
      { outcome := .cancelGateSkipped reason, slot := bumpReconciledAt nowMs findings.slot }
    | none =>
      if findings.inserted then
        { outcome := .cancelReenqueued
          slot := bumpReconciledAndCancelRepush nowMs findings.slot
          enqueued := some (integration.writeCalendarId.getD candidate.externalCalendarId) }
      else
        { outcome := .cancelGateSkipped .inflight
          slot := bumpReconciledAt nowMs findings.slot }

/-- `reconcileSlot` on a booked slot whose event is there. -/
def reconcileBooked (event : GoogleRawEvent) : Reconciled :=
  { outcome := if stampMismatch candidate event then .orphanSelf else .healthy
    slot := bumpReconciledAt nowMs findings.slot }

/-- `reconcileSlot` once Google has returned the event. -/
def reconcileEvent (integration : Integration) (event : GoogleRawEvent) : Reconciled :=
  if event.status = some .cancelled then reconcileGone candidate findings nowMs
  else
    match candidate.status with
    | .cancelled => reconcileCancelled candidate findings nowMs integration event
    | .booked => reconcileBooked candidate findings nowMs event

def Findings.token (forceRefresh : Bool) : FreshTokenResult :=
  ensureFreshAccessToken (findings.tokens forceRefresh) forceRefresh nowMs

/-- `events.get` behind `withTokenRetry`. -/
def Findings.wrapped : CallResult GoogleRawEvent :=
  withTokenRetry (findings.token nowMs) fun second _ =>
    (fetchEventById (findings.eventsGet second)).callResult

def reconcileSlot : Reconciled :=
  match findings.integration with
  | none => { outcome := .skippedIntegrationMissing, slot := findings.slot }
  | some integration =>
    if integration.syncState = .disconnected then
      { outcome := .skippedIntegrationDisconnected, slot := findings.slot }
    else
      match findings.wrapped nowMs with
      | .value event => reconcileEvent candidate findings nowMs integration event
      | .failed _ raw => reconcileFailure candidate findings nowMs raw

/-! ## Unbinding on evidence -/

/-- The last answer to `events.get`; none when a token for it could not be had. -/
def Findings.lastAnswer : Option EventsGet :=
  match findings.token nowMs false with
  | .failed _ _ => none
  | .fresh _ =>
    match fetchEventById (findings.eventsGet false) with
    | .failed .authExpired =>
      match findings.token nowMs true with
      | .failed _ _ => none
      | .fresh _ => some (findings.eventsGet true)
    | _ => some (findings.eventsGet false)

namespace EventsGet

def Returned (event : GoogleRawEvent) (get : EventsGet) : Prop :=
  ∃ status, get = .answered status (.object event) ∧ 200 ≤ status ∧ status < 300

def Missing (get : EventsGet) : Prop :=
  ∃ status body, get = .answered status body ∧ (status = 404 ∨ status = 410)

def Gone (get : EventsGet) : Prop :=
  get.Missing ∨ ∃ event, get.Returned event ∧ event.status = some .cancelled

def TransportFailure (get : EventsGet) : Prop :=
  ¬ get.Missing ∧ ∀ event, ¬ get.Returned event

end EventsGet

/-- A cancelled slot's event carries a stamp that is not the slot's. -/
def Alien (get : EventsGet) : Prop :=
  candidate.status = .cancelled ∧
    ∃ event, get.Returned event ∧ stampMismatch candidate event = true

def BoundSlot.binding (slot : BoundSlot) : Option String × Option String × Option String :=
  (slot.externalEventId, slot.externalCalendarId, slot.integrationEpoch)

def BoundSlot.Touched (before after : BoundSlot) : Prop :=
  after.binding ≠ before.binding ∨ after.externalSyncFailedAt ≠ before.externalSyncFailedAt

/-- The sweep unbinds a slot, or flags it, only on evidence and only as it has read it; a
failure leaves the slot as it was. -/
structure UnbindsOnEvidence : Prop where
  evidence : ∀ before after, findings.slot = some before ->
    (reconcileSlot candidate findings nowMs).slot = some after ->
      before.Touched after ->
        candidate.matches before = true ∧
          ∃ get, findings.lastAnswer nowMs = some get ∧ (get.Gone ∨ Alien candidate get)
  failures :
    (findings.lastAnswer nowMs = none ∨
        ∃ get, findings.lastAnswer nowMs = some get ∧ get.TransportFailure) ->
      (reconcileSlot candidate findings nowMs).slot = findings.slot

variable {candidate findings nowMs}

theorem wrapped_of_none (refused : findings.lastAnswer nowMs = none) :
    ∃ reason : FreshTokenFailure, findings.wrapped nowMs = .failed false reason.raw := by
  simp only [Findings.lastAnswer] at refused
  simp only [Findings.wrapped, withTokenRetry]
  cases first : findings.token nowMs false with
  | failed reason detail => exact ⟨reason, rfl⟩
  | fresh token =>
    simp only [first] at refused
    cases answer : fetchEventById (findings.eventsGet false) with
    | found event => simp [answer] at refused
    | failed failure =>
      cases failure with
      | authExpired =>
        simp only [answer] at refused
        cases second : findings.token nowMs true with
        | failed reason detail => exact ⟨reason, rfl⟩
        | fresh again => simp [second] at refused
      | notFound => simp [answer] at refused
      | rateLimited => simp [answer] at refused
      | serverError status => simp [answer] at refused
      | forbidden => simp [answer] at refused
      | network message => simp [answer] at refused
      | shape message => simp [answer] at refused

theorem wrapped_of_some {get : EventsGet} (asked : findings.lastAnswer nowMs = some get) :
    findings.wrapped nowMs = (fetchEventById get).callResult := by
  simp only [Findings.lastAnswer] at asked
  simp only [Findings.wrapped, withTokenRetry]
  cases first : findings.token nowMs false with
  | failed reason detail => simp [first] at asked
  | fresh token =>
    simp only [first] at asked
    cases answer : fetchEventById (findings.eventsGet false) with
    | found event =>
      simp only [answer, Option.some.injEq] at asked
      rw [← asked, answer]
      rfl
    | failed failure =>
      cases failure with
      | authExpired =>
        simp only [answer] at asked
        cases second : findings.token nowMs true with
        | failed reason detail => simp [second] at asked
        | fresh again =>
          simp only [second, Option.some.injEq] at asked
          rw [← asked]
          rfl
      | notFound | rateLimited | serverError status | forbidden | network message
      | shape message =>
        simp only [answer, Option.some.injEq] at asked
        rw [← asked, answer]
        rfl

theorem reconcileFailure_token (reason : FreshTokenFailure) :
    reconcileFailure candidate findings nowMs reason.raw =
      reconcileGone candidate findings nowMs := by
  cases reason <;> simp [reconcileFailure, FreshTokenFailure.raw, FreshTokenFailure.text]

theorem reconcileFailure_notFound :
    reconcileFailure candidate findings nowMs (FetchEventFailure.raw .notFound) =
      reconcileGone candidate findings nowMs := by
  simp [reconcileFailure, FetchEventFailure.raw]

theorem reconcileFailure_fetch {reason : FetchEventFailure} (other : reason ≠ .notFound) :
    (reconcileFailure candidate findings nowMs reason.raw).slot = findings.slot := by
  cases reason <;> simp_all [reconcileFailure, FetchEventFailure.raw]

theorem unbindSlot_of_changed {markSyncFailed : Bool} {slot : Option BoundSlot}
    (changed : ∀ row, slot = some row -> candidate.matches row = false) :
    unbindSlot candidate markSyncFailed nowMs slot = (slot, false) := by
  cases slot with
  | none => rfl
  | some row => simp [unbindSlot, changed row rfl]

theorem unbindSlot_of_matches {markSyncFailed : Bool} {row : BoundSlot}
    (matched : candidate.matches row = true) :
    unbindSlot candidate markSyncFailed nowMs (some row) =
      (some (row.unbound markSyncFailed nowMs), true) := by
  simp [unbindSlot, matched]

theorem matches_of_unbindSlot {markSyncFailed : Bool} {before after : BoundSlot}
    (written : (unbindSlot candidate markSyncFailed nowMs (some before)).1 = some after)
    (touched : before.Touched after) : candidate.matches before = true := by
  by_cases matched : candidate.matches before = true
  · exact matched
  · rw [unbindSlot, if_neg matched, Option.some.injEq] at written
    subst after
    rcases touched with binding | flag
    · exact absurd rfl binding
    · exact absurd rfl flag

theorem reconcileGone_slot : (reconcileGone candidate findings nowMs).slot =
      (unbindSlot candidate (candidate.status = .booked) nowMs findings.slot).1 := by
  simp only [reconcileGone]
  split <;> rfl

theorem not_touched_of_bump {before after : BoundSlot}
    (written : bumpReconciledAt nowMs (some before) = some after) : ¬ before.Touched after := by
  rw [bumpReconciledAt, Option.map_some, Option.some.injEq] at written
  subst after
  simp [BoundSlot.Touched, BoundSlot.binding]

theorem not_touched_of_repush {before after : BoundSlot}
    (written : bumpReconciledAndCancelRepush nowMs (some before) = some after) :
    ¬ before.Touched after := by
  rw [bumpReconciledAndCancelRepush, Option.map_some, Option.some.injEq] at written
  subst after
  simp [BoundSlot.Touched, BoundSlot.binding]

theorem fetchEventById_found {get : EventsGet} {event : GoogleRawEvent} :
    fetchEventById get = .found event <-> get.Returned event := by
  cases get with
  | unreachable message => simp [fetchEventById, EventsGet.Returned]
  | answered status body =>
    by_cases good : 200 ≤ status ∧ status < 300
    · constructor
      · intro found
        rw [fetchEventById, if_pos good] at found
        cases body with
        | object returned =>
          cases found
          exact ⟨status, rfl, good⟩
        | invalid message | notAnObject | withoutId => cases found
      · rintro ⟨status, same, -⟩
        cases same
        rw [fetchEventById, if_pos good]
        rfl
    · constructor
      · intro found
        simp only [fetchEventById, if_neg good] at found
        split at found <;> try cases found
        split at found <;> try cases found
        split at found <;> try cases found
        split at found <;> try cases found
        split at found <;> cases found
      · rintro ⟨status, same, low, high⟩
        cases same
        exact absurd ⟨low, high⟩ good

theorem fetchEventById_notFound {get : EventsGet} :
    fetchEventById get = .failed .notFound <-> get.Missing := by
  cases get with
  | unreachable message => simp [fetchEventById, EventsGet.Missing]
  | answered status body =>
    constructor
    · intro missing
      refine ⟨status, body, rfl, ?_⟩
      by_cases gone : status = 404 ∨ status = 410
      · exact gone
      · simp only [fetchEventById, if_neg gone] at missing
        split at missing
        · cases body <;> simp [EventBody.shaped] at missing
        split at missing <;> try cases missing
        split at missing <;> try cases missing
        split at missing <;> try cases missing
        split at missing <;> cases missing
    · rintro ⟨status, body, same, gone⟩
      cases same
      have bad : ¬ (200 ≤ status ∧ status < 300) := by omega
      rw [fetchEventById, if_neg bad, if_pos gone]

theorem reconcileEvent_evidence {integration : Integration} {event : GoogleRawEvent}
    {before after : BoundSlot} (here : findings.slot = some before)
    (written : (reconcileEvent candidate findings nowMs integration event).slot = some after)
    (touched : before.Touched after) : candidate.matches before = true ∧
      (event.status = some .cancelled ∨
        candidate.status = .cancelled ∧ stampMismatch candidate event = true) := by
  by_cases tombstone : event.status = some .cancelled
  · rw [reconcileEvent, if_pos tombstone, reconcileGone_slot, here] at written
    exact ⟨matches_of_unbindSlot written touched, Or.inl tombstone⟩
  rw [reconcileEvent, if_neg tombstone] at written
  cases status : candidate.status with
  | booked =>
    simp only [status, reconcileBooked, here] at written
    exact absurd touched (not_touched_of_bump written)
  | cancelled =>
    simp only [status] at written
    by_cases alien : stampMismatch candidate event = true
    · have unbound : (unbindSlot candidate false nowMs (some before)).1 = some after := by
        simp only [reconcileCancelled, if_pos alien, here] at written
        split at written <;> exact written
      exact ⟨matches_of_unbindSlot unbound touched, Or.inr ⟨rfl, alien⟩⟩
    · rw [reconcileCancelled, if_neg alien, here] at written
      split at written
      · exact absurd touched (not_touched_of_bump written)
      · split at written
        · exact absurd touched (not_touched_of_repush written)
        · exact absurd touched (not_touched_of_bump written)

variable (candidate findings nowMs) in
/-- The sweep gets a token whenever it asks for one, or the slot has changed since it was
read. -/
def TokenOrChanged : Prop :=
  (∃ integration, findings.integration = some integration ∧
      integration.syncState ≠ .disconnected) ->
    (findings.lastAnswer nowMs).isSome ∨
      ∀ slot, findings.slot = some slot -> candidate.matches slot = false

theorem reconcileSlot_refused {integration : Integration}
    (read : findings.integration = some integration)
    (connected : integration.syncState ≠ .disconnected)
    (refused : findings.lastAnswer nowMs = none) :
    reconcileSlot candidate findings nowMs = reconcileGone candidate findings nowMs := by
  rcases wrapped_of_none refused with ⟨reason, wrapped⟩
  simp only [reconcileSlot, read, if_neg connected, wrapped]
  exact reconcileFailure_token reason

theorem reconcileSlot_answered {integration : Integration} {get : EventsGet}
    (read : findings.integration = some integration)
    (connected : integration.syncState ≠ .disconnected)
    (asked : findings.lastAnswer nowMs = some get) : reconcileSlot candidate findings nowMs =
      match fetchEventById get with
      | .found event => reconcileEvent candidate findings nowMs integration event
      | .failed reason => reconcileFailure candidate findings nowMs reason.raw := by
  simp only [reconcileSlot, read, if_neg connected, wrapped_of_some asked]
  cases fetchEventById get <;> rfl

theorem reconcileSlot_skipped (skipped : ∀ integration,
    findings.integration = some integration -> integration.syncState = .disconnected) :
    (reconcileSlot candidate findings nowMs).slot = findings.slot := by
  cases read : findings.integration with
  | none => simp [reconcileSlot, read]
  | some integration => simp [reconcileSlot, read, skipped integration read]

theorem unbindsOnEvidence_of_same
    (same : (reconcileSlot candidate findings nowMs).slot = findings.slot) :
    UnbindsOnEvidence candidate findings nowMs where
  evidence before after here written touched := by
    rw [same, here, Option.some.injEq] at written
    subst after
    rcases touched with binding | flag
    · exact absurd rfl binding
    · exact absurd rfl flag
  failures _ := same

theorem unbindsOnEvidence_of_answered {integration : Integration} {get : EventsGet}
    (read : findings.integration = some integration)
    (connected : integration.syncState ≠ .disconnected)
    (asked : findings.lastAnswer nowMs = some get) :
    UnbindsOnEvidence candidate findings nowMs := by
  have acts : reconcileSlot candidate findings nowMs = _ :=
    reconcileSlot_answered read connected asked
  cases answer : fetchEventById get with
  | found event =>
    have returned := fetchEventById_found.mp answer
    simp only [answer] at acts
    constructor
    · intro before after here written touched
      rw [acts] at written
      rcases reconcileEvent_evidence here written touched with
        ⟨matched, tombstone | ⟨cancelled, alien⟩⟩
      · exact ⟨matched, get, asked, Or.inl (Or.inr ⟨event, returned, tombstone⟩)⟩
      · exact ⟨matched, get, asked, Or.inr ⟨cancelled, event, returned, alien⟩⟩
    · rintro (refused | ⟨failed, again, lost⟩)
      · rw [asked] at refused
        cases refused
      · rw [asked, Option.some.injEq] at again
        subst failed
        exact absurd returned (lost.2 event)
  | failed reason =>
    simp only [answer] at acts
    by_cases gone : reason = .notFound
    · subst reason
      have missing := fetchEventById_notFound.mp answer
      constructor
      · intro before after here written touched
        rw [acts, reconcileFailure_notFound, reconcileGone_slot, here] at written
        exact ⟨matches_of_unbindSlot written touched, get, asked, Or.inl (Or.inl missing)⟩
      · rintro (refused | ⟨failed, again, lost⟩)
        · rw [asked] at refused
          cases refused
        · rw [asked, Option.some.injEq] at again
          subst failed
          exact absurd missing lost.1
    · apply unbindsOnEvidence_of_same
      rw [acts]
      exact reconcileFailure_fetch gone

/-- The sweep unbinds on evidence only exactly when it is never refused a token for a slot
that is still as it was read. -/
theorem unbindsOnEvidence_iff : UnbindsOnEvidence candidate findings nowMs <->
      TokenOrChanged candidate findings nowMs := by
  constructor
  · rintro sound ⟨integration, read, connected⟩
    cases refused : findings.lastAnswer nowMs with
    | some get => exact Or.inl rfl
    | none =>
      right
      intro slot here
      by_cases matched : candidate.matches slot = true
      · have kept := sound.failures (Or.inl refused)
        rw [reconcileSlot_refused read connected refused, reconcileGone_slot, here,
          unbindSlot_of_matches matched, Option.some.injEq] at kept
        have bound : slot.externalEventId = some candidate.externalEventId := by
          simp only [CandidateSlot.matches, decide_eq_true_eq] at matched
          exact matched.2.1
        rw [← kept] at bound
        cases bound
      · exact Bool.not_eq_true _ ▸ matched
  · intro had
    by_cases active : ∃ integration, findings.integration = some integration ∧
        integration.syncState ≠ .disconnected
    · rcases active with ⟨integration, read, connected⟩
      cases refused : findings.lastAnswer nowMs with
      | some get => exact unbindsOnEvidence_of_answered read connected refused
      | none =>
        rcases had ⟨integration, read, connected⟩ with answered | changed
        · rw [refused] at answered
          cases answered
        · apply unbindsOnEvidence_of_same
          rw [reconcileSlot_refused read connected refused, reconcileGone_slot,
            unbindSlot_of_changed changed]
    · apply unbindsOnEvidence_of_same
      apply reconcileSlot_skipped
      intro integration read
      by_cases disconnected : integration.syncState = .disconnected
      · exact disconnected
      · exact absurd ⟨integration, read, disconnected⟩ active

private def linkedRow : Integration :=
  Integration.initialConnect ⟨"a", some "r", "calendar", 0⟩ ["c"] (some "c") "1" 0

private def readLesson : CandidateSlot := ⟨"s", "c", "e", some "1", .booked⟩

private def boundLesson : BoundSlot := ⟨some .booked, some "e", some "c", some "1", none, none, 0⟩

private def tokenOutage : Findings where
  integration := some linkedRow
  tokens _ := ⟨some linkedRow, .present, .http 503 "unavailable", none, none⟩
  eventsGet _ := .unreachable ""
  latestJob := none
  inserted := false
  slot := some boundLesson

/-- A booked lesson loses its binding, and is flagged, because Google did not refresh the
token. -/
theorem unbound_without_evidence : (reconcileSlot readLesson tokenOutage 0).slot =
        some ⟨some .booked, none, none, none, some 0, some 0, 0⟩ ∧
      ¬ UnbindsOnEvidence readLesson tokenOutage 0 := by
  have gone : (reconcileSlot readLesson tokenOutage 0).slot =
      some ⟨some .booked, none, none, none, some 0, some 0, 0⟩ := by
    decide +kernel
  refine ⟨gone, fun sound => ?_⟩
  have kept := sound.failures (Or.inl (by rfl))
  rw [gone] at kept
  exact absurd kept (by decide +kernel)

end LevelChannel.Calendar
