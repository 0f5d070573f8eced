import LevelChannel.Calendar.Tokens
import LevelChannel.ReadCommitted.Statements

namespace LevelChannel

open ReadCommitted

namespace Calendar

/-!
# Disconnecting

A teacher may disconnect Google while pulls, token refreshes and channel setups are under
way.  Each of these reads the row, talks to Google for a while, and then updates the row.
The update of a pull asks whether the sync token and the epoch are still those it has
read, the others ask nothing, and disconnecting changes neither of the two.
-/

/-- The integration row, the time, how often the row has been disconnected, and whether
that was after the last connect. -/
structure IntegrationDb where
  row : Option Integration
  now : Nat
  disconnects : Nat
  cut : Bool

inductive IntegrationWrite where
  | connect (row : Integration)
  | disconnect
  | refresh (tokens : GoogleTokens)
  | expireSyncToken (startedToken : Option String) (startedEpoch : String)
  | commitPull (startedToken : Option String) (startedEpoch : String)
      (tokenFromGoogle : Option String)
  | channel (channelId resourceId channelToken : String) (expiresAt : Nat)

/-- The guard of a pull: nobody else has stored a sync token or connected again. -/
def Integration.guarded (row : Integration) (startedToken : Option String)
    (startedEpoch : String) : Bool :=
  row.nextSyncToken = startedToken ∧ row.epoch = startedEpoch

namespace IntegrationDb

def update (db : IntegrationDb) (set : Integration -> Integration) : IntegrationDb :=
  { db with row := db.row.map set }

/-- `disconnectGoogleIntegration` -/
def disconnect (db : IntegrationDb) : IntegrationDb :=
  match db.row with
  | none => db
  | some row =>
    if row.syncState = .disconnected then db
    else
      { db with row := some row.disconnect, disconnects := db.disconnects + 1, cut := true }

def apply (db : IntegrationDb) : IntegrationWrite -> IntegrationDb
  | .connect row => { db with row := some row, cut := false }
  | .disconnect => db.disconnect
  | .refresh tokens => db.update (Integration.tokenRefresh tokens)
  | .expireSyncToken startedToken startedEpoch =>
    db.update fun row =>
      if row.guarded startedToken startedEpoch then
        { row with nextSyncToken := none, lastError := some "sync_token_expired" }
      else row
  | .commitPull startedToken startedEpoch tokenFromGoogle =>
    db.update fun row =>
      if row.guarded startedToken startedEpoch then
        { row with
          lastPulledAt := some db.now
          syncState := .active
          lastError := none
          nextSyncToken := tokenFromGoogle.or row.nextSyncToken }
      else row
  | .channel channelId resourceId channelToken expiresAt =>
    db.update fun row =>
      { row with
        channelId := some channelId
        channelResourceId := some resourceId
        channelToken := some channelToken
        channelExpiresAt := some expiresAt
        lastSeenMessageNumber := none }

end IntegrationDb

/-- Every statement is a transaction of its own, or is followed by the commit at once. -/
def integrationStore : Store IntegrationDb Unit IntegrationWrite Nat where
  apply := IntegrationDb.apply
  drift passed db := { db with now := db.now + passed }
  close _ db := db
  conflict _ _ := true
  conflict_comm _ _ := rfl

/-! ## The operations -/

/-- What a call comes to: a statement goes through or fails, and Google answers. -/
inductive CalendarAnswer where
  | done
  | refused
  | refreshed (answer : RefreshAnswer)
  | pulled (nextSyncToken : Option String)
  | watched (channelId resourceId channelToken : String) (expiresAt : Nat)
  | unauthorized
  | syncTokenExpired
  deriving DecidableEq

/-- An update carries how many disconnects its operation had seen when it read the row. -/
inductive IntegrationLabel where
  | plain
  | update (seen : Nat)
  | guarded (seen : Nat) (startedToken : Option String) (startedEpoch : String)

abbrev CalendarProgram :=
  ReadCommitted.Program IntegrationDb Unit IntegrationWrite IntegrationLabel CalendarAnswer Bool

abbrev CalendarState :=
  ReadCommitted.State IntegrationDb Unit IntegrationWrite IntegrationLabel CalendarAnswer Bool

namespace Flight

def ask (next : IntegrationDb -> CalendarAnswer -> CalendarProgram) : CalendarProgram :=
  .call .plain (fun _ _ => []) next

def write (label : IntegrationLabel) (write : IntegrationDb -> IntegrationWrite)
    (next : CalendarAnswer -> CalendarProgram) : CalendarProgram :=
  .call label (fun db answer => if answer = .refused then [] else [write db])
    fun _ answer => next answer

/-- The end of `ensureFreshAccessToken`: the tokens are stored and read again. -/
def storeTokens (seen : Nat) (tokens : GoogleTokens)
    (next : FreshTokenResult -> CalendarProgram) : CalendarProgram :=
  write (.update seen) (fun _ => .refresh tokens) fun answer =>
    if answer = .refused then next (.failed .transient none)
    else
      ask fun db _ =>
        match db.row.bind Integration.accessToken with
        | some token =>
          if token = "" then next (.failed .transient none) else next (.fresh token)
        | none => next (.failed .transient none)

/-- The refresh of `ensureFreshAccessToken`; `refused` is a missing configuration. -/
def refreshTokens (seen : Nat) (next : FreshTokenResult -> CalendarProgram) : CalendarProgram :=
  ask fun _ answer =>
    match answer with
    | .refreshed (.tokens tokens) => storeTokens seen tokens next
    | .refreshed (.http status body) =>
      if status = 400 ∨ status = 401 ∨ status = 403 then
        write .plain (fun _ => .disconnect) fun _ => next (.failed .permanent (some body))
      else next (.failed .transient (some body))
    | .refreshed (.network message) => next (.failed .transient (some message))
    | .refreshed (.shape message) => next (.failed .transient (some message))
    | _ => next (.failed .configMissing none)

def ensureFreshAccessToken (forceRefresh : Bool)
    (next : FreshTokenResult -> CalendarProgram) : CalendarProgram :=
  ask fun db _ =>
    match db.row with
    | none => next (.failed .integrationMissing none)
    | some row =>
      if row.syncState = .disconnected then next (.failed .disconnected none)
      else
        match row.cachedToken forceRefresh db.now with
        | some token => next (.fresh token)
        | none =>
          if row.refreshToken.getD "" = "" then next (.failed .noRefreshToken none)
          else refreshTokens db.disconnects next

/-- `withTokenRetry`, and `tryRefreshOnce` where a second 401 does not disconnect.  The
call's answer, or none where no token could be had. -/
def withTokenRetry (disconnects : Bool) (next : Option CalendarAnswer -> CalendarProgram) :
    CalendarProgram :=
  ensureFreshAccessToken false fun first =>
    match first with
    | .failed _ _ => next none
    | .fresh _ =>
      ask fun _ answer =>
        if answer ≠ .unauthorized then next (some answer)
        else
          ensureFreshAccessToken true fun second =>
            match second with
            | .failed _ _ => next none
            | .fresh _ =>
              ask fun _ again =>
                if again = .unauthorized ∧ disconnects = true then
                  write .plain (fun _ => .disconnect) fun _ => next (some again)
                else next (some again)

/-- `runPullForCalendar`, as far as the integration row is concerned. -/
def runPullForCalendar : CalendarProgram :=
  ask fun db _ =>
    match db.row with
    | none => .done false
    | some row =>
      if row.syncState = .disconnected then .done false
      else if row.accessToken.getD "" = "" then .done false
      else if row.tokenExpiresAt.any fun expiresAt => expiresAt ≤ db.now then .done false
      else
        withTokenRetry true fun answer =>
          match answer with
          | some (.pulled tokenFromGoogle) =>
            write (.guarded db.disconnects row.nextSyncToken row.epoch)
              (fun _ => .commitPull row.nextSyncToken row.epoch tokenFromGoogle)
              fun committed => .done (committed ≠ .refused)
          | some .syncTokenExpired =>
            write .plain (fun _ => .expireSyncToken row.nextSyncToken row.epoch)
              fun _ => .done false
          | _ => .done false

def setupChannelForIntegration : CalendarProgram :=
  ask fun db _ =>
    match db.row with
    | none => .done false
    | some row =>
      if row.syncState = .disconnected then .done false
      else
        withTokenRetry true fun answer =>
          match answer with
          | some (.watched channelId resourceId channelToken expiresAt) =>
            write (.update db.disconnects)
              (fun _ => .channel channelId resourceId channelToken expiresAt) fun stored =>
                if stored = .refused then .done false
                -- the old channel is stopped
                else if row.channelId.isSome ∧ row.channelResourceId.isSome then
                  withTokenRetry false fun _ => .done true
                else .done true
          | _ => .done false

end Flight

inductive CalendarRequest where
  | connect (tokens : GoogleTokens) (readCalendarIds : List String)
      (writeCalendarId : Option String) (epoch : String)
  | disconnect
  | refresh (forceRefresh : Bool)
  | pull
  | setupChannel

def CalendarRequest.program : CalendarRequest -> CalendarProgram
  | .connect tokens readCalendarIds writeCalendarId epoch =>
    Flight.write .plain
      (fun db => .connect
        (Integration.initialConnect tokens readCalendarIds writeCalendarId epoch db.now))
      fun answer => .done (answer ≠ .refused)
  | .disconnect =>
    Flight.write .plain (fun _ => .disconnect) fun answer => .done (answer ≠ .refused)
  | .refresh forceRefresh =>
    Flight.ensureFreshAccessToken forceRefresh fun result =>
      match result with
      | .fresh _ => .done true
      | .failed _ _ => .done false
  | .pull => Flight.runPullForCalendar
  | .setupChannel => Flight.setupChannelForIntegration

def integrationOpening (db : IntegrationDb) (requests : Nat -> CalendarRequest) : CalendarState :=
  State.start db fun session => (requests session).program

/-- The row of an integration that is cut off. -/
structure Integration.CutOff (row : Integration) : Prop where
  syncState : row.syncState = .disconnected
  accessToken : row.accessToken = none
  refreshToken : row.refreshToken = none
  channelId : row.channelId = none
  channelResourceId : row.channelResourceId = none
  channelExpiresAt : row.channelExpiresAt = none
  channelToken : row.channelToken = none

def StaysDisconnected (db : IntegrationDb) : Prop :=
  db.cut = true -> ∀ row, db.row = some row -> row.CutOff

/-- An update of an operation that has read the row before a disconnect does not happen
after it, unless the row has been connected again or the guard of the update fails. -/
def InTime : IntegrationLabel -> IntegrationDb -> Prop
  | .plain, _ => True
  | .update seen, db => db.cut = true -> db.disconnects = seen
  | .guarded seen startedToken startedEpoch, db => db.cut = true -> db.disconnects = seen ∨
      (db.row.all fun row => !row.guarded startedToken startedEpoch) = true

instance (label : IntegrationLabel) (db : IntegrationDb) : Decidable (InTime label db) :=
  match label with
  | .plain => inferInstanceAs (Decidable True)
  | .update _ => inferInstanceAs (Decidable (_ -> _))
  | .guarded _ _ _ => inferInstanceAs (Decidable (_ -> _ ∨ _))

/-- What an operation leaves to the others: disconnects are counted, and without a new one
nobody is cut off. -/
structure Counts (before after : IntegrationDb) : Prop where
  more : before.disconnects ≤ after.disconnects
  same : after.disconnects = before.disconnects -> before.cut = false -> after.cut = false

def integrationContract : Contract IntegrationDb Unit where
  Good := StaysDisconnected
  Guarantee _ _ := Counts

variable {db before after : IntegrationDb} {session seen : Nat} {label : IntegrationLabel}

theorem Counts.refl (db : IntegrationDb) : Counts db db :=
  ⟨Nat.le_refl _, fun _ uncut => uncut⟩

theorem update_kept {set : Integration -> Integration} (stays : StaysDisconnected db)
    (keeps : db.cut = true -> ∀ row, db.row = some row -> row.CutOff -> (set row).CutOff) :
    StaysDisconnected (db.update set) ∧ Counts db (db.update set) := by
  refine ⟨?_, Nat.le_refl _, fun _ uncut => uncut⟩
  intro cut row found
  rcases Option.map_eq_some_iff.mp found with ⟨old, read, rfl⟩
  exact keeps cut old read (stays cut old read)

theorem connect_kept (tokens : GoogleTokens) (readCalendarIds : List String)
    (writeCalendarId : Option String) (epoch : String) : StaysDisconnected (db.apply (.connect
        (Integration.initialConnect tokens readCalendarIds writeCalendarId epoch db.now))) ∧
      Counts db (db.apply (.connect
        (Integration.initialConnect tokens readCalendarIds writeCalendarId epoch db.now))) := by
  constructor
  · intro cut
    cases cut
  · exact ⟨Nat.le_refl _, fun _ _ => rfl⟩

theorem disconnect_cutOff {row : Integration} (connected : row.syncState ≠ .disconnected) :
    row.disconnect.CutOff := by
  rw [Integration.disconnect, if_neg connected]
  constructor <;> rfl

theorem disconnect_kept (stays : StaysDisconnected db) :
    StaysDisconnected (db.apply .disconnect) ∧ Counts db (db.apply .disconnect) := by
  rw [IntegrationDb.apply, IntegrationDb.disconnect]
  cases read : db.row with
  | none => exact ⟨stays, Counts.refl db⟩
  | some row =>
    by_cases already : row.syncState = .disconnected
    · simp only [if_pos already]
      exact ⟨stays, Counts.refl db⟩
    · simp only [if_neg already]
      constructor
      · intro _ now found
        cases found
        exact disconnect_cutOff already
      · exact ⟨Nat.le_succ _, fun same => absurd same (Nat.succ_ne_self _)⟩

theorem uncut_kept {set : Integration -> Integration} (stays : StaysDisconnected db)
    (uncut : db.cut = false) : StaysDisconnected (db.update set) ∧ Counts db (db.update set) := by
  apply update_kept stays
  intro cut
  rw [uncut] at cut
  cases cut

theorem expireSyncToken_kept (stays : StaysDisconnected db) (startedToken : Option String)
    (startedEpoch : String) :
    StaysDisconnected (db.apply (.expireSyncToken startedToken startedEpoch)) ∧
      Counts db (db.apply (.expireSyncToken startedToken startedEpoch)) := by
  apply update_kept stays
  intro _ row _ cutOff
  split
  · exact ⟨cutOff.syncState, cutOff.accessToken, cutOff.refreshToken, cutOff.channelId,
      cutOff.channelResourceId, cutOff.channelExpiresAt, cutOff.channelToken⟩
  · exact cutOff

theorem commitPull_kept (stays : StaysDisconnected db) (startedToken : Option String)
    (startedEpoch : String) (tokenFromGoogle : Option String) (allowed : db.cut = false ∨
      (db.row.all fun row => !row.guarded startedToken startedEpoch) = true) :
    StaysDisconnected (db.apply (.commitPull startedToken startedEpoch tokenFromGoogle)) ∧
      Counts db (db.apply (.commitPull startedToken startedEpoch tokenFromGoogle)) := by
  rcases allowed with uncut | missed
  · exact uncut_kept stays uncut
  · apply update_kept stays
    intro _ row read cutOff
    rw [read, Option.all_some, Bool.not_eq_true'] at missed
    rw [missed]
    exact cutOff

/-! ## The operations -/

/-- No disconnect has happened since the row was read, or none that is still in force. -/
def Current (seen : Nat) (db : IntegrationDb) : Prop :=
  seen ≤ db.disconnects ∧ (db.disconnects = seen -> db.cut = false)

/-- A fact that nothing the operations do can end. -/
def Lasting (P : IntegrationDb -> Prop) : Prop :=
  ∀ before after, P before -> Counts before after -> P after

theorem current_lasting (seen : Nat) : Lasting (Current seen) := by
  rintro before after ⟨earlier, uncut⟩ ⟨more, same⟩
  refine ⟨Nat.le_trans earlier more, fun last => ?_⟩
  have unmoved : after.disconnects = before.disconnects := by omega
  exact same unmoved (uncut (unmoved.symm.trans last))

theorem Lasting.and {P Q : IntegrationDb -> Prop} (first : Lasting P) (second : Lasting Q) :
    Lasting fun db => P db ∧ Q db := by
  intro before after both counts
  exact ⟨first before after both.1 counts, second before after both.2 counts⟩

theorem Lasting.stable {P : IntegrationDb -> Prop} (lasting : Lasting P) :
    integrationContract.Stable integrationStore session [] P := by
  rintro before after holds ⟨-, -, ⟨passed, rfl⟩ | ⟨other, theirs, -, -, counts⟩⟩
  · exact lasting before _ holds ⟨Nat.le_refl _, fun _ uncut => uncut⟩
  · exact lasting before after holds counts

theorem current_of_read {row : Integration} (stays : StaysDisconnected db)
    (read : db.row = some row) (connected : row.syncState ≠ .disconnected) :
    Current db.disconnects db := by
  refine ⟨Nat.le_refl _, fun _ => ?_⟩
  cases cut : db.cut with
  | false => rfl
  | true => exact absurd (stays cut row read).syncState connected

/-- The operation keeps the integration cut off from here on. -/
abbrev Keeps (session : Nat) (program : CalendarProgram) (db : IntegrationDb) : Prop :=
  integrationContract.Safe integrationStore InTime session program [] [] db

namespace Flight

variable {P : IntegrationDb -> Prop} (lasting : Lasting P)

include lasting in
theorem ask_keeps {next : IntegrationDb -> CalendarAnswer -> CalendarProgram} (holds : P db)
    (went : ∀ now, P now -> StaysDisconnected now -> ∀ answer,
      Keeps session (next now answer) now) : Keeps session (ask next) db := by
  apply Contract.Safe.call P lasting.stable holds
  · intro now _ stays _ answer
    exact ⟨stays, Counts.refl now⟩
  · intro now current stays _ answer
    exact went now current stays answer

include lasting in
theorem write_keeps {write : IntegrationDb -> IntegrationWrite}
    {next : CalendarAnswer -> CalendarProgram} (holds : P db)
    (kept : ∀ now, P now -> StaysDisconnected now -> InTime label now ->
      StaysDisconnected (now.apply (write now)) ∧ Counts now (now.apply (write now)))
    (went : ∀ now, P now -> ∀ answer, Keeps session (next answer) now) :
    Keeps session (Flight.write label write next) db := by
  have both : ∀ now, P now -> StaysDisconnected now -> InTime label now -> ∀ answer,
      StaysDisconnected (integrationStore.applyAll now
          (if answer = CalendarAnswer.refused then [] else [write now])) ∧
        Counts now (integrationStore.applyAll now
          (if answer = CalendarAnswer.refused then [] else [write now])) := by
    intro now current stays allowed answer
    by_cases refused : answer = .refused
    · rw [if_pos refused]
      exact ⟨stays, Counts.refl now⟩
    · rw [if_neg refused]
      exact kept now current stays allowed
  apply Contract.Safe.call P lasting.stable holds both
  intro now current stays allowed answer
  exact went _ (lasting now _ current (both now current stays allowed answer).2) answer

include lasting in
theorem storeTokens_keeps {tokens : GoogleTokens} {next : FreshTokenResult -> CalendarProgram}
    (holds : P db) (current : Current seen db)
    (went : ∀ result now, P now -> Keeps session (next result) now) :
    Keeps session (storeTokens seen tokens next) db := by
  apply write_keeps (lasting.and (current_lasting seen)) ⟨holds, current⟩
  · rintro now ⟨-, -, uncut⟩ stays allowed
    apply uncut_kept stays
    cases cut : now.cut with
    | false => rfl
    | true => exact cut.symm.trans (uncut (allowed cut))
  · intro now both answer
    by_cases refused : answer = .refused
    · rw [if_pos refused]
      exact went _ now both.1
    · rw [if_neg refused]
      apply ask_keeps lasting both.1
      intro later still _ _
      split
      · split
        · exact went _ later still
        · exact went _ later still
      · exact went _ later still

include lasting in
theorem refreshTokens_keeps {next : FreshTokenResult -> CalendarProgram}
    (holds : P db) (current : Current seen db)
    (went : ∀ result now, P now -> Keeps session (next result) now) :
    Keeps session (refreshTokens seen next) db := by
  apply ask_keeps (lasting.and (current_lasting seen)) ⟨holds, current⟩
  intro now both _ answer
  split
  · exact storeTokens_keeps lasting both.1 both.2 went
  · split
    · apply write_keeps lasting both.1
      · intro later _ stays _
        exact disconnect_kept stays
      · intro later still _
        exact went _ later still
    · exact went _ now both.1
  · exact went _ now both.1
  · exact went _ now both.1
  · exact went _ now both.1

include lasting in
theorem ensureFreshAccessToken_keeps {forceRefresh : Bool}
    {next : FreshTokenResult -> CalendarProgram} (holds : P db)
    (went : ∀ result now, P now -> Keeps session (next result) now) :
    Keeps session (ensureFreshAccessToken forceRefresh next) db := by
  apply ask_keeps lasting holds
  intro now still stays _
  cases read : now.row with
  | none => exact went _ now still
  | some row =>
    dsimp only
    by_cases disconnected : row.syncState = .disconnected
    · rw [if_pos disconnected]
      exact went _ now still
    · rw [if_neg disconnected]
      split
      · exact went _ now still
      · split
        · exact went _ now still
        · exact refreshTokens_keeps lasting still (current_of_read stays read disconnected) went

include lasting in
theorem withTokenRetry_keeps {disconnects : Bool}
    {next : Option CalendarAnswer -> CalendarProgram} (holds : P db)
    (went : ∀ answer now, P now -> Keeps session (next answer) now) :
    Keeps session (withTokenRetry disconnects next) db := by
  apply ensureFreshAccessToken_keeps lasting holds
  intro first now still
  cases first with
  | failed reason detail => exact went none now still
  | fresh token =>
    apply ask_keeps lasting still
    intro now still _ answer
    split
    · exact went _ now still
    apply ensureFreshAccessToken_keeps lasting still
    intro second now still
    cases second with
    | failed reason detail => exact went none now still
    | fresh again =>
      apply ask_keeps lasting still
      intro now still _ again
      split
      · apply write_keeps lasting still
        · intro later _ stays _
          exact disconnect_kept stays
        · intro later still _
          exact went _ later still
      · exact went _ now still

theorem runPullForCalendar_keeps (db : IntegrationDb) : Keeps session runPullForCalendar db := by
  have always : Lasting fun _ => True := fun _ _ _ _ => trivial
  apply ask_keeps always trivial
  intro now _ stays _
  cases read : now.row with
  | none => trivial
  | some row =>
    dsimp only
    by_cases disconnected : row.syncState = .disconnected
    · rw [if_pos disconnected]
      trivial
    rw [if_neg disconnected]
    split
    · trivial
    split
    · trivial
    have lasting := current_lasting now.disconnects
    apply withTokenRetry_keeps lasting (current_of_read stays read disconnected)
    intro answer later current
    split
    · apply write_keeps lasting current
      · intro last current stays allowed
        apply commitPull_kept stays
        cases cut : last.cut with
        | false => exact Or.inl rfl
        | true =>
          rcases allowed cut with same | missed
          · exact Or.inl (cut.symm.trans (current.2 same))
          · exact Or.inr missed
      · intro last _ _
        trivial
    · apply write_keeps lasting current
      · intro last _ stays _
        exact expireSyncToken_kept stays _ _
      · intro last _ _
        trivial
    · trivial

theorem setupChannelForIntegration_keeps (db : IntegrationDb) :
    Keeps session setupChannelForIntegration db := by
  have always : Lasting fun _ => True := fun _ _ _ _ => trivial
  apply ask_keeps always trivial
  intro now _ stays _
  cases read : now.row with
  | none => trivial
  | some row =>
    dsimp only
    by_cases disconnected : row.syncState = .disconnected
    · rw [if_pos disconnected]
      trivial
    rw [if_neg disconnected]
    have lasting := current_lasting now.disconnects
    apply withTokenRetry_keeps lasting (current_of_read stays read disconnected)
    intro answer later current
    split
    · apply write_keeps lasting current
      · intro last current stays allowed
        apply uncut_kept stays
        cases cut : last.cut with
        | false => rfl
        | true => exact cut.symm.trans (current.2 (allowed cut))
      · intro last current stored
        split
        · trivial
        · split
          · apply withTokenRetry_keeps always trivial
            intro stopped final _
            trivial
          · trivial
    · trivial

end Flight

theorem request_keeps (request : CalendarRequest) (db : IntegrationDb) :
    Keeps session request.program db := by
  have always : Lasting fun _ => True := fun _ _ _ _ => trivial
  cases request with
  | connect tokens readCalendarIds writeCalendarId epoch =>
    apply Flight.write_keeps always trivial
    · intro now _ _ _
      exact connect_kept tokens readCalendarIds writeCalendarId epoch
    · intro now _ _
      trivial
  | disconnect =>
    apply Flight.write_keeps always trivial
    · intro now _ stays _
      exact disconnect_kept stays
    · intro now _ _
      trivial
  | refresh forceRefresh =>
    rw [CalendarRequest.program]
    apply Flight.ensureFreshAccessToken_keeps always trivial
    intro result now _
    cases result <;> trivial
  | pull => exact Flight.runPullForCalendar_keeps db
  | setupChannel => exact Flight.setupChannelForIntegration_keeps db

theorem integration_steady : Contract.Steady integrationContract integrationStore where
  drift _ _ stays := stays
  close _ _ db stays := ⟨stays, Counts.refl db⟩

/-- In every run in which the updates of the operations are in time, a disconnected
integration stays disconnected until it is connected again. -/
theorem disconnected_stays {db : IntegrationDb} {requests : Nat -> CalendarRequest}
    (start : StaysDisconnected db) {last : CalendarState}
    (run : Reaches integrationStore InTime (integrationOpening db requests) last) :
    StaysDisconnected last.db := by
  have sound : Contract.Sound integrationContract integrationStore InTime
      (integrationOpening db requests) :=
    Contract.Sound.start start fun session => request_keeps (requests session) db
  exact (sound.reaches integration_steady run).1.good

private def googleTokens : GoogleTokens := ⟨"a", some "r", "calendar", 3600000⟩

private def connectedDb : IntegrationDb where
  row := some (Integration.initialConnect googleTokens ["c"] (some "c") "1" 0)
  now := 0
  disconnects := 0
  cut := false

/-- The first session makes the request, the second one disconnects. -/
private def againstDisconnect (request : CalendarRequest) : Nat -> CalendarRequest
  | 0 => request
  | _ => .disconnect

/-- A pull comes to its end, and then the integration is disconnected. -/
theorem disconnected_stays_after_pull : ∃ last, Reaches integrationStore InTime
      (integrationOpening connectedDb (againstDisconnect .pull)) last ∧
      last.db.cut = true ∧ StaysDisconnected last.db := by
  rcases exists_of_playAllowed integrationStore InTime
    (integrationOpening connectedDb (againstDisconnect .pull))
    [.run 0 .done, .run 0 .done, .run 0 (.pulled (some "t")), .run 0 .done, .run 1 .done]
    (fun db => db.cut) (by decide +kernel) with ⟨last, run, cut⟩
  exact ⟨last, run, cut, disconnected_stays (fun cut => absurd cut Bool.false_ne_true) run⟩

/-- A pull, a refresh and a channel setup that were under way when the integration was
disconnected make it active again, give it a token and give it a channel. -/
theorem disconnect_undone :
    (∃ last, Reaches integrationStore (fun _ _ => True)
      (integrationOpening connectedDb (againstDisconnect .pull)) last ∧
      last.db.cut = true ∧ last.db.row.map Integration.syncState = some .active) ∧
    (∃ last, Reaches integrationStore (fun _ _ => True)
      (integrationOpening connectedDb (againstDisconnect (.refresh true))) last ∧
      last.db.cut = true ∧ last.db.row.map Integration.accessToken = some (some "a")) ∧
    ∃ last, Reaches integrationStore (fun _ _ => True)
      (integrationOpening connectedDb (againstDisconnect .setupChannel)) last ∧
      last.db.cut = true ∧ last.db.row.map Integration.channelId = some (some "lc-1") := by
  refine ⟨?_, ?_, ?_⟩
  · apply exists_of_play integrationStore _
      [.run 0 .done, .run 0 .done, .run 0 (.pulled (some "t")), .run 1 .done, .run 0 .done]
      fun db => db.cut = true ∧ db.row.map Integration.syncState = some .active
    decide +kernel
  · apply exists_of_play integrationStore _
      [.run 0 .done, .run 0 (.refreshed (.tokens googleTokens)), .run 1 .done, .run 0 .done]
      fun db => db.cut = true ∧ db.row.map Integration.accessToken = some (some "a")
    decide +kernel
  · apply exists_of_play integrationStore _
      [.run 0 .done, .run 0 .done, .run 0 (.watched "lc-1" "r" "k" 1), .run 1 .done,
        .run 0 .done]
      fun db => db.cut = true ∧ db.row.map Integration.channelId = some (some "lc-1")
    decide +kernel

end Calendar
end LevelChannel
