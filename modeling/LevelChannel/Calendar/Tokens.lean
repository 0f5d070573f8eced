import LevelChannel.Calendar.Integrations

namespace LevelChannel.Calendar

/-!
# Access tokens

Every call to Google goes through `withTokenRetry`, which asks for a token, and asks again
when Google does not accept it.  Its failures are of two kinds, a token that could not be
had and a call that failed, and both come back as one untyped value.
-/

inductive RefreshAnswer where
  | tokens (tokens : GoogleTokens)
  | http (status : Nat) (body : String)
  | network (message : String)
  | shape (message : String)
  deriving DecidableEq

/-- What `getGoogleCalendarOauthConfig` answers. -/
inductive OauthConfig where
  | present
  | missing
  | thrown (message : String)

inductive FreshTokenFailure where
  | integrationMissing
  | disconnected
  | noRefreshToken
  | configMissing
  | transient
  | permanent
  deriving DecidableEq

inductive FreshTokenResult where
  | fresh (accessToken : String)
  | failed (reason : FreshTokenFailure) (detail : Option String)

/-- What one call of `ensureFreshAccessToken` finds: the row, the configuration, Google's
answer, whether the tokens could be stored, and the row when it is read again. -/
structure TokenAnswers where
  integration : Option Integration
  config : OauthConfig
  refresh : RefreshAnswer
  upsertError : Option String
  reread : Option Integration

def refreshSkewMs : Nat := 60000

def Integration.cachedToken (row : Integration) (forceRefresh : Bool) (nowMs : Nat) :
    Option String :=
  match row.accessToken, row.tokenExpiresAt with
  | some token, some expiresAt =>
    if forceRefresh = false ∧ token ≠ "" ∧ nowMs + refreshSkewMs < expiresAt then some token
    else none
  | _, _ => none

/-- The end of `ensureFreshAccessToken`, once Google has handed out tokens. -/
def TokenAnswers.stored (answers : TokenAnswers) : FreshTokenResult :=
  match answers.upsertError with
  | some message => .failed .transient (some message)
  | none =>
    match answers.reread.bind Integration.accessToken with
    | some token =>
      if token = "" then .failed .transient (some "refreshed integration row missing token")
      else .fresh token
    | none => .failed .transient (some "refreshed integration row missing token")

/-- The refresh of `ensureFreshAccessToken`. -/
def TokenAnswers.refreshed (answers : TokenAnswers) : FreshTokenResult :=
  match answers.config with
  | .thrown message => .failed .configMissing (some message)
  | .missing => .failed .configMissing none
  | .present =>
    match answers.refresh with
    | .http status body =>
      if status = 400 ∨ status = 401 ∨ status = 403 then .failed .permanent (some body)
      else .failed .transient (some body)
    | .network message => .failed .transient (some message)
    | .shape message => .failed .transient (some message)
    | .tokens _ => answers.stored

def ensureFreshAccessToken (answers : TokenAnswers) (forceRefresh : Bool) (nowMs : Nat) :
    FreshTokenResult :=
  match answers.integration with
  | none => .failed .integrationMissing none
  | some integration =>
    if integration.syncState = .disconnected then .failed .disconnected none
    else
      match integration.cachedToken forceRefresh nowMs with
      | some token => .fresh token
      | none =>
        if integration.refreshToken.getD "" = "" then .failed .noRefreshToken none
        else answers.refreshed

/-- A failure whose type is no longer known: only its fields are left. -/
structure RawFailure where
  reason : Option String
  status : Option Nat
  message : Option String

def FreshTokenFailure.text : FreshTokenFailure -> String
  | .integrationMissing => "integration_missing"
  | .disconnected => "disconnected"
  | .noRefreshToken => "no_refresh_token"
  | .configMissing => "config_missing"
  | .transient => "transient"
  | .permanent => "permanent"

def FreshTokenFailure.raw (reason : FreshTokenFailure) : RawFailure :=
  ⟨some reason.text, none, none⟩

inductive CallResult (Value : Type) where
  | value (value : Value)
  | failed (auth401 : Bool) (raw : RawFailure)

variable {Value : Type}

/-- `withTokenRetry`; both the tokens and the call depend on whether it is the second
attempt. -/
def withTokenRetry (ensure : Bool -> FreshTokenResult)
    (exec : Bool -> String -> CallResult Value) : CallResult Value :=
  match ensure false with
  | .failed reason _ => .failed false reason.raw
  | .fresh token =>
    match exec false token with
    | .failed true _ =>
      match ensure true with
      | .failed reason _ => .failed false reason.raw
      | .fresh again => exec true again
    | result => result

end LevelChannel.Calendar
