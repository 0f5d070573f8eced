namespace LevelChannel.Calendar

/-!
# Calendar integrations

The row that connects a teacher to Google, and the statements that write it.  All of this
is about one teacher's row; instants are in milliseconds.
-/

inductive SyncState where
  | active
  | degraded
  | disconnected
  deriving DecidableEq

/-- A row of `teacher_calendar_integrations`, its tokens decrypted. -/
structure Integration where
  syncState : SyncState
  epoch : String
  accessToken : Option String
  refreshToken : Option String
  tokenExpiresAt : Option Nat
  scope : Option String
  readCalendarIds : List String
  writeCalendarId : Option String
  lastPulledAt : Option Nat
  lastReconnectedAt : Option Nat
  lastError : Option String
  channelId : Option String
  channelResourceId : Option String
  channelExpiresAt : Option Nat
  channelToken : Option String
  lastSeenMessageNumber : Option Nat
  nextSyncToken : Option String
  deriving DecidableEq

structure GoogleTokens where
  accessToken : String
  refreshToken : Option String
  scope : String
  tokenExpiresAt : Nat
  deriving DecidableEq

namespace Integration

/-- `upsertGoogleIntegration` on a first connect or a reconnect. -/
def initialConnect (tokens : GoogleTokens) (readCalendarIds : List String)
    (writeCalendarId : Option String) (epoch : String) (now : Nat) : Integration where
  syncState := .active
  epoch := epoch
  accessToken := some tokens.accessToken
  refreshToken := tokens.refreshToken
  tokenExpiresAt := some tokens.tokenExpiresAt
  scope := some tokens.scope
  readCalendarIds := readCalendarIds
  writeCalendarId := writeCalendarId
  lastPulledAt := none
  lastReconnectedAt := some now
  lastError := none
  channelId := none
  channelResourceId := none
  channelExpiresAt := none
  channelToken := none
  lastSeenMessageNumber := none
  nextSyncToken := none

/-- `upsertGoogleIntegration` after a token refresh; a missing refresh token keeps the
stored one. -/
def tokenRefresh (tokens : GoogleTokens) (row : Integration) : Integration :=
  { row with
    accessToken := some tokens.accessToken
    refreshToken := tokens.refreshToken.or row.refreshToken
    tokenExpiresAt := some tokens.tokenExpiresAt
    scope := some tokens.scope }

/-- `disconnectGoogleIntegration` -/
def disconnect (row : Integration) : Integration :=
  if row.syncState = .disconnected then row
  else
    { row with
      syncState := .disconnected
      accessToken := none
      refreshToken := none
      tokenExpiresAt := none
      channelId := none
      channelResourceId := none
      channelExpiresAt := none
      channelToken := none
      lastSeenMessageNumber := none }

end Integration

end LevelChannel.Calendar
