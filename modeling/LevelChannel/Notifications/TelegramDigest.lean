import LevelChannel.Notifications.TelegramAlerts

namespace LevelChannel

namespace TelegramDigest

open TelegramAlerts

/-!
# The digest on Telegram

After the mail of a digest was accepted, a second transaction sends the digest to Telegram and
records on the same row what became of it.  Statements, commits, the sender and the renderer can
fail.  What the block throws is caught twice: by the block itself, which is to leave the row alone
once a message was accepted, and by its caller, which marks the row as failed.

The flag on which the inner handler decides is declared inside the `try`, so that the handler
throws on its own when it reads the flag, and the decision is left to the caller.
-/

/-! ## Tables -/

inductive TelegramSkip where
  | noTelegramBinding
  | botBlockedByUser
  | channelDisabled
  | sendFailed
  deriving DecidableEq, Repr

/-- A row of `teacher_account_daily_digests`, with its columns for Telegram. -/
structure TelegramRow where
  sent : Bool
  skippedReason : Option TelegramSkip
  attempts : Nat
  messageId : Option String
  lastError : Option String
  deriving DecidableEq, Repr

namespace TelegramRow

def isPending (row : TelegramRow) : Bool :=
  !row.sent && row.skippedReason.isNone

/-- What `tadd_telegram_state_consistency` says about these columns. -/
def stateConsistent (row : TelegramRow) : Bool :=
  match row.skippedReason with
  | none => row.sent || row.messageId.isNone
  | some .sendFailed => !row.sent && row.messageId.isNone && 1 ≤ row.attempts
  | some _ => !row.sent && row.messageId.isNone

end TelegramRow

/-- What the block reads of `accounts`; the account is none if it is disabled or purged. -/
structure Binding where
  enabled : Bool
  chatId : Option String
  deriving DecidableEq, Repr

structure Tables where
  row : Option TelegramRow
  account : Option Binding

/-- A connection: what is committed, what its transaction sees, and whether Telegram has accepted
a message for the row, which no rollback takes back. -/
structure Client where
  committed : Tables
  working : Tables
  delivered : Bool

namespace Client

def begin_ (client : Client) : Client :=
  { client with working := client.committed }

/-- An update of the row, for which `telegram_sent = false and telegram_skipped_reason is null`
must hold. -/
def update (client : Client) (change : TelegramRow -> TelegramRow) : Client :=
  { client with working.row := client.working.row.map fun row =>
      if row.isPending then change row else row }

def rowCount (client : Client) : Nat :=
  match client.working.row with
  | none => 0
  | some row => if row.isPending then 1 else 0

end Client

inductive Point where
  | begin_
  | disabledUpdate
  | binding
  | noBindingUpdate
  | readRow
  | rollback
  | bump
  | sentUpdate
  | unbind
  | blockedUpdate
  | failedUpdate
  deriving DecidableEq, Repr

inductive CommitPoint where
  | disabled
  | noBinding
  | sent
  | blocked
  | failed
  deriving DecidableEq, Repr

/-- A commit that fails did not take effect, or its answer was lost. -/
inductive CommitFate where
  | done
  | lost
  | unacknowledged
  deriving DecidableEq, Repr

structure Faults where
  fails : Point -> Bool
  commit : CommitPoint -> CommitFate
  renderer : Option Thrown
  recovery : Bool

inductive Reply where
  | ok (messageId : Option String)
  | failed (error detail : Option String)
  | threw (thrown : Thrown)

/-- The sender's answer, and whether Telegram accepted the message.  It answers `ok` only then, but
an accepted message may be answered by an error: the answer to the request can get lost. -/
structure Sender where
  accepted : Bool
  reply : Reply
  honest : ∀ messageId, reply = .ok messageId -> accepted = true

inductive TelegramOutcome where
  | sent (messageId : Option String)
  | skippedDisabled
  | skippedNoBinding
  | botBlocked
  | terminalSendFailed (error : Option String)
  | alreadySent
  | rowMissing

inductive Ending where
  | returned (tg : TelegramOutcome)
  | threw

/-! ## The block -/

section

variable (faults : Faults) (tgToken : String) (sender : Sender)

def query (point : Point) (client : Client) (next : Client × Ending) : Client × Ending :=
  if faults.fails point then (client, .threw) else next

def commit (point : CommitPoint) (client : Client) (tg : TelegramOutcome) : Client × Ending :=
  match faults.commit point with
  | .done => ({ client with committed := client.working }, .returned tg)
  | .lost => (client, .threw)
  | .unacknowledged => ({ client with committed := client.working }, .threw)

def abandon (client : Client) (tg : TelegramOutcome) : Client × Ending :=
  query faults .rollback client (client.begin_, .returned tg)

/-- `redactTelegramSecret(text, tgToken).slice(0, 1000)` -/
def redactedError (text : String) : String :=
  jsSlice 1000 (redactTelegramSecret text tgToken)

/-- `result.error.startsWith('telegram_403')` -/
def isBlocked (error : Option String) : Bool :=
  error.any fun error => "telegram_403".toList.isPrefixOf error.toList

/-- Steps 6 to 8: record the answer. -/
def recordReply (chatId : String) (client : Client) : Client × Ending :=
  match sender.reply with
  | .threw _ => (client, .threw)
  | .ok messageId =>
    query faults .sentUpdate client
      (if client.rowCount = 0 then abandon faults client .alreadySent
      else
        commit faults .sent
          (client.update fun row =>
            { row with sent := true, messageId := messageId, lastError := none })
          (.sent messageId))
  | .failed error detail =>
    if isBlocked error then
      let unbound (account : Binding) : Binding :=
        if account.chatId = some chatId then { account with enabled := false } else account
      query faults .unbind client
        (let client := { client with working.account := client.working.account.map unbound }
        query faults .blockedUpdate client
          (commit faults .blocked
            (client.update fun row =>
              { row with
                skippedReason := some .botBlockedByUser
                lastError := some (redactedError tgToken (detail.getD "")) })
            .botBlocked))
    else
      query faults .failedUpdate client
        (commit faults .failed
          (client.update fun row =>
            { row with
              skippedReason := some .sendFailed
              lastError := some (redactedError tgToken ((detail.or error).getD "unknown")) })
          (.terminalSendFailed error))

/-- What stands in the `try` of `runTeacherTelegramBlock`. -/
def telegramBlock (telegramEnabled : Bool) (client : Client) : Client × Ending :=
  query faults .begin_ client
    (let client := client.begin_
    if !telegramEnabled then
      query faults .disabledUpdate client
        (commit faults .disabled
          (client.update fun row => { row with skippedReason := some .channelDisabled })
          (if 0 < client.rowCount then .skippedDisabled else .rowMissing))
    else
      query faults .binding client
        (match (client.working.account.filter Binding.enabled).bind Binding.chatId with
        | none | some "" =>
          query faults .noBindingUpdate client
            (commit faults .noBinding
              (client.update fun row => { row with skippedReason := some .noTelegramBinding })
              (if 0 < client.rowCount then .skippedNoBinding else .rowMissing))
        | some chatId =>
          query faults .readRow client
            (match client.working.row with
            | none => abandon faults client .rowMissing
            | some row =>
              if row.sent then abandon faults client .alreadySent
              else if row.skippedReason.isSome then abandon faults client .alreadySent
              else
                query faults .bump client
                  (if client.rowCount = 0 then abandon faults client .alreadySent
                  else
                    let client := client.update fun row =>
                      { row with attempts := row.attempts + 1 }
                    recordReply faults tgToken sender chatId
                      { client with delivered := client.delivered || sender.accepted }))))

/-- What the handler throws when it names a variable of the `try`. -/
def flagOutOfScope : Thrown :=
  .error "ReferenceError" "postSendSucceeded is not defined" none

/-- `runTeacherTelegramBlock`.  The handler rolls back and logs the flag, which it cannot see;
nothing after that is reached. -/
def runTeacherTelegramBlock (telegramEnabled : Bool) (client : Client) :
    Client × Except Thrown TelegramOutcome :=
  match telegramBlock faults tgToken sender telegramEnabled client with
  | (client, .returned tg) => (client, .ok tg)
  | (client, .threw) => (client.begin_, .error flagOutOfScope)

def Thrown.head : Thrown -> String
  | .error _ message _ => jsSlice 800 message
  | .other text => jsSlice 800 text

/-- The handler of `processOneTeacher`. -/
def outerRecovery (thrown : Thrown) (client : Client) : Client :=
  if faults.recovery then client
  else
    let client := client.begin_.update fun row =>
      { row with
        skippedReason := some .sendFailed
        lastError := some ("outer_wrapper_crashed: " ++ Thrown.head thrown)
        attempts := max row.attempts 1 }
    { client with committed := client.working }

/-- `processOneTeacher`, after the mail was accepted and committed. -/
def telegramBranch (telegramEnabled : Bool) (client : Client) : Client :=
  if telegramEnabled && !tgToken.isEmpty then
    match faults.renderer with
    | some thrown => outerRecovery faults thrown client
    | none =>
      match runTeacherTelegramBlock faults tgToken sender true client with
      | (client, .ok _) => client
      | (client, .error thrown) => outerRecovery faults thrown client
  else client

end

/-- An accepted message is not recorded as failed, and without one the row is terminal and not
marked as sent. -/
def Truthful (client : Client) : Prop :=
  ∃ row, client.committed.row = some row ∧
    (client.delivered = true -> row.skippedReason ≠ some .sendFailed) ∧
    (client.delivered = false -> row.skippedReason.isSome = true ∧ row.sent = false)

/-- The state in which the branch begins: a row that passes its check, which is marked as sent if a
message was accepted before. -/
structure Start (client : Client) (row : TelegramRow) : Prop where
  found : client.committed.row = some row
  consistent : row.stateConsistent = true
  delivered : client.delivered = row.sent

def reachesSender (faults : Faults) (client : Client) : Bool :=
  faults.renderer.isNone && !faults.fails .begin_ && !faults.fails .binding &&
    !faults.fails .readRow && !faults.fails .bump &&
    ((client.committed.account.filter Binding.enabled).bind Binding.chatId).any (· ≠ "") &&
    client.committed.row.any TelegramRow.isPending

/-- The row will not say that the message was accepted: the sender does not, or what it says does
not reach the table. -/
def losesAnswer (faults : Faults) : Reply -> Bool
  | .ok _ => faults.fails .sentUpdate || faults.commit .sent = .lost
  | .failed error _ =>
    !isBlocked error || faults.fails .unbind || faults.fails .blockedUpdate ||
      faults.commit .blocked = .lost
  | .threw _ => true

/-! ## Runs that do not reach the sender -/

def Ended (client : Client) : Prop :=
  ∃ row, client.committed.row = some row ∧ row.isPending = false ∧
    (client.delivered = true -> row.skippedReason ≠ some .sendFailed) ∧
    (client.delivered = false -> row.skippedReason.isSome = true ∧ row.sent = false)

def Honest (client : Client) : Prop :=
  (∃ row, client.committed.row = some row ∧ row.isPending = true ∧ client.delivered = false) ∨
    Ended client

def Fair (result : Client × Ending) : Prop :=
  Honest result.1 ∧ ∀ tg, result.2 = .returned tg -> Ended result.1

section

variable {faults : Faults} {client : Client} {row : TelegramRow} {next : Client × Ending}

theorem Ended.truthful (ended : Ended client) : Truthful client := by
  rcases ended with ⟨row, found, -, accepted, unaccepted⟩
  exact ⟨row, found, accepted, unaccepted⟩

theorem isPending_iff : row.isPending = true <-> row.sent = false ∧ row.skippedReason = none := by
  simp [TelegramRow.isPending]

theorem ended_of_start (start : Start client row) (ended : row.isPending = false) :
    Ended client := by
  refine ⟨row, start.found, ended, ?_, ?_⟩
  · intro delivered failed
    have sent := start.delivered.symm.trans delivered
    have consistent := start.consistent
    simp [TelegramRow.stateConsistent, failed, sent] at consistent
  · intro undelivered
    have unsent := start.delivered.symm.trans undelivered
    rw [TelegramRow.isPending, unsent, Bool.not_false, Bool.true_and] at ended
    exact ⟨by simpa using ended, unsent⟩

theorem honest_of_start (start : Start client row) : Honest client := by
  cases pending : row.isPending with
  | false => exact Or.inr (ended_of_start start pending)
  | true =>
    exact Or.inl ⟨row, start.found, pending,
      start.delivered.trans (isPending_iff.mp pending).1⟩

theorem fair_query {point : Point} (honest : Honest client)
    (continues : faults.fails point = false -> Fair next) :
    Fair (query faults point client next) := by
  rw [query]
  split
  · exact ⟨honest, fun _ ended => by cases ended⟩
  · exact continues (Bool.eq_false_iff.mpr ‹_›)

theorem fair_commit {point : CommitPoint} {tg : TelegramOutcome} (honest : Honest client)
    (ended : Ended { client with committed := client.working }) :
    Fair (commit faults point client tg) := by
  rw [commit]
  split
  · exact ⟨Or.inr ended, fun _ _ => ended⟩
  · exact ⟨honest, fun _ returned => by cases returned⟩
  · exact ⟨Or.inr ended, fun _ returned => by cases returned⟩

theorem fair_abandon {tg : TelegramOutcome} (ended : Ended client) :
    Fair (abandon faults client tg) :=
  fair_query (Or.inr ended) fun _ => ⟨Or.inr ended, fun _ _ => ended⟩

theorem ended_skip {reason : TelegramSkip} {change : TelegramRow -> TelegramRow}
    (honest : Honest client) (same : client.working = client.committed)
    (skips : ∀ row, (change row).skippedReason = some reason ∧ (change row).sent = row.sent) :
    Ended { client.update change with committed := (client.update change).working } := by
  rcases honest with ⟨row, found, pending, undelivered⟩ |
    ⟨row, found, terminal, accepted, unaccepted⟩
  · have ⟨skipped, sent⟩ := skips row
    have unsent := sent.trans (isPending_iff.mp pending).1
    refine ⟨change row, ?_, ?_, ?_, ?_⟩
    · simp [Client.update, same, found, pending]
    · simp [TelegramRow.isPending, skipped]
    · intro delivered
      cases undelivered.symm.trans delivered
    · exact fun _ => ⟨skipped ▸ rfl, unsent⟩
  · refine ⟨row, ?_, terminal, accepted, unaccepted⟩
    simp [Client.update, same, found, terminal]

theorem ended_outerRecovery (honest : Honest client) (recovers : faults.recovery = false)
    (thrown : Thrown) : Ended (outerRecovery faults thrown client) := by
  have fresh : Honest client.begin_ := honest
  rw [outerRecovery, recovers]
  exact ended_skip fresh rfl fun row => ⟨rfl, rfl⟩

theorem fair_telegramBlock (tgToken : String) (sender : Sender) (start : Start client row)
    (rendered : faults.renderer = none) (unreached : reachesSender faults client = false) :
    Fair (telegramBlock faults tgToken sender true client) := by
  have honest : Honest client := honest_of_start start
  have fresh : Honest client.begin_ := honest
  rw [telegramBlock]
  refine fair_query honest fun begins => fair_query fresh fun binds => ?_
  split
  case h_1 | h_2 =>
    exact fair_query fresh fun _ => fair_commit fresh (ended_skip fresh rfl fun row => ⟨rfl, rfl⟩)
  case h_3 chatId named bound =>
    refine fair_query fresh fun reads => ?_
    have found : client.begin_.working.row = some row := start.found
    rw [found]
    dsimp only
    cases pending : row.isPending with
    | false =>
      have ended : Ended client := ended_of_start start pending
      have terminal : Ended client.begin_ := ended
      by_cases sent : row.sent = true
      · rw [if_pos sent]
        exact fair_abandon terminal
      by_cases skipped : row.skippedReason.isSome = true
      · rw [if_neg sent, if_pos skipped]
        exact fair_abandon terminal
      · have open_ : row.isPending = true :=
          isPending_iff.mpr ⟨by simpa using sent, by simpa using skipped⟩
        rw [pending] at open_
        cases open_
    | true =>
      have ⟨unsent, unskipped⟩ := isPending_iff.mp pending
      rw [if_neg (by simp [unsent]), if_neg (by simp [unskipped])]
      refine fair_query fresh fun bumps => ?_
      -- Nothing failed, so that the sender was reached.
      have account : client.begin_.working.account = client.committed.account := rfl
      rw [account] at bound
      simp [reachesSender, rendered, begins, binds, reads, bumps, bound, start.found, pending]
        at unreached
      exact absurd unreached named

/-! ## Runs that reach the sender -/

/-- The sender was asked, and the row is still pending in the table. -/
structure Asked (client : Client) (accepted : Bool) : Prop where
  pending : ∃ row, client.committed.row = some row ∧ row.isPending = true
  delivered : client.delivered = accepted

def Failed (client : Client) (accepted : Bool) : Prop :=
  client.delivered = accepted ∧ ∃ row, client.committed.row = some row ∧
    row.skippedReason = some .sendFailed ∧ row.sent = false

variable {accepted : Bool}

theorem Failed.truthful_iff (failed : Failed client accepted) :
    Truthful client <-> accepted = false := by
  rcases failed with ⟨delivered, row, found, skipped, unsent⟩
  constructor
  · rintro ⟨other, also, told, -⟩
    cases Option.some.inj (found.symm.trans also)
    cases accepted with
    | true => exact absurd skipped (told delivered)
    | false => rfl
  · rintro rfl
    refine ⟨row, found, ?_, fun _ => ⟨skipped ▸ rfl, unsent⟩⟩
    intro told
    cases delivered.symm.trans told

def finish (faults : Faults) : Client × Ending -> Client
  | (client, .returned _) => client
  | (client, .threw) => outerRecovery faults flagOutOfScope client.begin_

theorem telegramBranch_eq {tgToken : String} {sender : Sender} (token : tgToken ≠ "")
    (rendered : faults.renderer = none) : telegramBranch faults tgToken sender true client =
      finish faults (telegramBlock faults tgToken sender true client) := by
  have given : (true && !tgToken.isEmpty) = true := by
    simpa using token
  rw [telegramBranch, if_pos given, rendered]
  dsimp only [runTeacherTelegramBlock]
  rcases telegramBlock faults tgToken sender true client with ⟨left_, tg | threw⟩ <;> rfl

theorem failed_of_threw (recovers : faults.recovery = false) (asked : Asked client accepted) :
    Failed (finish faults (client, .threw)) accepted := by
  rcases asked.pending with ⟨row, found, pending⟩
  have unsent := (isPending_iff.mp pending).1
  rw [finish, outerRecovery, recovers]
  refine ⟨asked.delivered, { row with
    skippedReason := some .sendFailed
    lastError := some ("outer_wrapper_crashed: " ++ Thrown.head flagOutOfScope)
    attempts := max row.attempts 1 }, ?_, rfl, unsent⟩
  simp [Client.update, Client.begin_, found, pending]

theorem Failed.finish (recovers : faults.recovery = false) (failed : Failed client accepted) :
    Failed (finish faults (client, .threw)) accepted := by
  rcases failed with ⟨delivered, row, found, skipped, unsent⟩
  rw [TelegramDigest.finish, outerRecovery, recovers]
  refine ⟨delivered, row, ?_, skipped, unsent⟩
  simp [Client.update, Client.begin_, found, TelegramRow.isPending, skipped]

theorem Ended.finish (recovers : faults.recovery = false) (ended : Ended client) :
    Ended (finish faults (client, .threw)) := by
  have fresh : Ended client.begin_ := ended
  exact ended_outerRecovery (Or.inr fresh) recovers flagOutOfScope

theorem finish_commit {point : CommitPoint} {tg : TelegramOutcome}
    (kept : faults.commit point ≠ .lost) : finish faults (commit faults point client tg) =
        { client with committed := client.working } ∨
      finish faults (commit faults point client tg) =
        finish faults ({ client with committed := client.working }, .threw) := by
  rw [commit]
  split
  · exact Or.inl rfl
  · exact absurd ‹_› kept
  · exact Or.inr rfl

def Recorded (accepted lost : Bool) (client : Client) : Prop :=
  lost = false ∧ Ended client ∨ lost = true ∧ Failed client accepted

theorem recorded_query {point : Point} {next : Client × Ending} {lost : Bool}
    (recovers : faults.recovery = false) (asked : Asked client accepted)
    (went : Recorded accepted lost (finish faults next)) :
    Recorded accepted (faults.fails point || lost)
      (finish faults (query faults point client next)) := by
  rw [query]
  cases faults.fails point with
  | true => exact Or.inr ⟨rfl, failed_of_threw recovers asked⟩
  | false => exact went

theorem recorded_commit {point : CommitPoint} {tg : TelegramOutcome}
    (recovers : faults.recovery = false) (asked : Asked client accepted)
    (ended : Ended { client with committed := client.working }) :
    Recorded accepted (decide (faults.commit point = .lost))
      (finish faults (commit faults point client tg)) := by
  by_cases lost : faults.commit point = .lost
  · refine Or.inr ⟨decide_eq_true lost, ?_⟩
    rw [commit, lost]
    exact failed_of_threw recovers asked
  · refine Or.inl ⟨decide_eq_false lost, ?_⟩
    rcases finish_commit lost with is | is
    · exact is ▸ ended
    · exact is ▸ ended.finish recovers

theorem failed_commit {point : CommitPoint} {tg : TelegramOutcome}
    (recovers : faults.recovery = false) (asked : Asked client accepted)
    (failed : Failed { client with committed := client.working } accepted) :
    Failed (finish faults (commit faults point client tg)) accepted := by
  by_cases lost : faults.commit point = .lost
  · rw [commit, lost]
    exact failed_of_threw recovers asked
  · rcases finish_commit lost with is | is
    · exact is ▸ failed
    · exact is ▸ failed.finish recovers

theorem ended_sent (messageId : Option String) (delivered : client.delivered = true)
    (found : client.working.row = some row) (pending : row.isPending = true) :
    Ended { client.update fun row =>
        { row with sent := true, messageId := messageId, lastError := none } with
      committed := (client.update fun row =>
        { row with sent := true, messageId := messageId, lastError := none }).working } := by
  refine ⟨{ row with sent := true, messageId := messageId, lastError := none }, ?_, rfl, ?_, ?_⟩
  · simp [Client.update, found, pending]
  · intro _
    rw [(isPending_iff.mp pending).2]
    decide
  · intro undelivered
    cases delivered.symm.trans undelivered

theorem row_update {change : TelegramRow -> TelegramRow} (found : client.working.row = some row)
    (pending : row.isPending = true) : (client.update change).working.row = some (change row) := by
  simp [Client.update, found, pending]

end

/-! ### The answer -/

section

variable {faults : Faults} {client : Client} {row : TelegramRow} {tgToken chatId : String}
  {sender : Sender}

theorem recorded_recordReply (recovers : faults.recovery = false)
    (asked : Asked client sender.accepted) (found : client.working.row = some row)
    (pending : row.isPending = true) : Recorded sender.accepted (losesAnswer faults sender.reply)
      (finish faults (recordReply faults tgToken sender chatId client)) := by
  have unsent := (isPending_iff.mp pending).1
  rw [recordReply]
  cases reply : sender.reply with
  | threw thrown => exact Or.inr ⟨rfl, failed_of_threw recovers asked⟩
  | ok messageId =>
    have counted : client.rowCount ≠ 0 := by
      simp [Client.rowCount, found, pending]
    have delivered : client.delivered = true :=
      asked.delivered.trans (sender.honest messageId reply)
    refine recorded_query recovers asked ?_
    rw [if_neg counted]
    exact recorded_commit recovers ⟨asked.pending, asked.delivered⟩
      (ended_sent messageId delivered found pending)
  | failed error detail =>
    dsimp only [losesAnswer]
    cases blocked : isBlocked error with
    | true =>
      rw [if_pos rfl, Bool.not_true, Bool.false_or, Bool.or_assoc]
      refine recorded_query recovers asked (recorded_query recovers
        ⟨asked.pending, asked.delivered⟩ (recorded_commit recovers
          ⟨asked.pending, asked.delivered⟩ ⟨_, row_update found pending, ?_, ?_, ?_⟩))
      · simp [TelegramRow.isPending]
      · simp
      · exact fun _ => ⟨rfl, unsent⟩
    | false =>
      refine Or.inr ⟨by simp, ?_⟩
      rw [if_neg (by decide), query]
      cases faults.fails .failedUpdate with
      | true => exact failed_of_threw recovers asked
      | false =>
        exact failed_commit recovers ⟨asked.pending, asked.delivered⟩
          ⟨asked.delivered, _, row_update found pending, rfl, unsent⟩

end

theorem Fair.finish {faults : Faults} {result : Client × Ending} (fair : Fair result)
    (recovers : faults.recovery = false) : Ended (finish faults result) := by
  rcases result with ⟨client, tg | _⟩
  · exact fair.2 tg rfl
  · have fresh : Honest client.begin_ := fair.1
    exact ended_outerRecovery fresh recovers flagOutOfScope

def askedClient (sender : Sender) (client : Client) : Client :=
  { client.begin_.update fun row => { row with attempts := row.attempts + 1 } with
    delivered := client.delivered || sender.accepted }

theorem telegramBlock_of_reaches {faults : Faults} {client : Client} (tgToken : String)
    (sender : Sender) (reached : reachesSender faults client = true) :
    ∃ chatId, telegramBlock faults tgToken sender true client =
      recordReply faults tgToken sender chatId (askedClient sender client) := by
  simp only [reachesSender, Bool.and_eq_true, Bool.not_eq_true'] at reached
  obtain ⟨⟨⟨⟨⟨⟨-, begins⟩, binds⟩, reads⟩, bumps⟩, named⟩, open_⟩ := reached
  rcases (Option.any_eq_true _ _).mp named with ⟨chatId, bound, nonempty⟩
  rcases (Option.any_eq_true _ _).mp open_ with ⟨row, found, pending⟩
  have ⟨unsent, unskipped⟩ := isPending_iff.mp pending
  have working : client.begin_.working = client.committed := rfl
  have counted : client.begin_.rowCount ≠ 0 := by
    simp [Client.rowCount, working, found, pending]
  refine ⟨chatId, ?_⟩
  rw [telegramBlock, query, if_neg (by simp [begins])]
  simp only [Bool.not_true, Bool.false_eq_true, if_false]
  rw [query, if_neg (by simp [binds]), working, bound]
  split
  case h_1 | h_2 => simp_all
  case h_3 other notEmpty same =>
    cases same
    rw [query, if_neg (by simp [reads]), found]
    dsimp only
    rw [if_neg (by simp [unsent]), if_neg (by simp [unskipped]), query,
      if_neg (by simp [bumps]), if_neg counted]
    rfl

/-- The row tells the truth about the message if and only if an accepted message finds its answer
recorded: the sender says so, and neither the update of the row nor its commit gets lost. -/
theorem telegramBranch_truthful_iff (faults : Faults) (tgToken : String) (sender : Sender)
    (client : Client) (row : TelegramRow) (start : Start client row) (token : tgToken ≠ "")
    (recovers : faults.recovery = false) :
    Truthful (telegramBranch faults tgToken sender true client) <->
      ¬ (reachesSender faults client = true ∧ sender.accepted = true ∧
        losesAnswer faults sender.reply = true) := by
  cases rendered : faults.renderer with
  | some thrown =>
    have unreached : reachesSender faults client = false := by
      simp [reachesSender, rendered]
    have given : (true && !tgToken.isEmpty) = true := by
      simpa using token
    have ended := ended_outerRecovery (honest_of_start start) recovers thrown
    rw [telegramBranch, if_pos given, rendered, unreached]
    simpa using ended.truthful
  | none =>
    rw [telegramBranch_eq token rendered]
    cases reached : reachesSender faults client with
    | false =>
      have ended := (fair_telegramBlock tgToken sender start rendered reached).finish recovers
      simpa using ended.truthful
    | true =>
      rcases telegramBlock_of_reaches tgToken sender reached with ⟨chatId, is⟩
      have pending : row.isPending = true := by
        simp only [reachesSender, Bool.and_eq_true, start.found, Option.any_some] at reached
        exact reached.2
      have undelivered := start.delivered.trans (isPending_iff.mp pending).1
      have asked : Asked (askedClient sender client) sender.accepted := by
        refine ⟨⟨row, start.found, pending⟩, ?_⟩
        rw [askedClient, undelivered, Bool.false_or]
      have found : client.begin_.working.row = some row := start.found
      have seen : (askedClient sender client).working.row =
          some { row with attempts := row.attempts + 1 } := row_update found pending
      rw [is]
      rcases recorded_recordReply recovers asked seen pending with
        ⟨recorded, ended⟩ | ⟨lost, failed⟩
      · rw [recorded]
        simpa using ended.truthful
      · rw [failed.truthful_iff, lost]
        simp

/-- A pending row of a teacher who can be reached, right after the mail. -/
def afterMail : Client where
  committed := ⟨some ⟨false, none, 0, none, none⟩, some ⟨true, some "42"⟩⟩
  working := ⟨some ⟨false, none, 0, none, none⟩, some ⟨true, some "42"⟩⟩
  delivered := false

theorem start_afterMail : Start afterMail ⟨false, none, 0, none, none⟩ :=
  ⟨rfl, rfl, rfl⟩

def confirmed : Sender where
  accepted := true
  reply := .ok (some "7")
  honest := fun _ _ => rfl

def updateFails : Faults where
  fails := fun point => point = .sentUpdate
  commit := fun _ => .done
  renderer := none
  recovery := false

theorem telegramBranch_truthful_iff_updateFails :
    Truthful (telegramBranch updateFails "123456:AbC_d-9zQ" confirmed true afterMail) <->
      ¬ (reachesSender updateFails afterMail = true ∧ confirmed.accepted = true ∧
        losesAnswer updateFails confirmed.reply = true) :=
  telegramBranch_truthful_iff updateFails "123456:AbC_d-9zQ" confirmed afterMail
    ⟨false, none, 0, none, none⟩ start_afterMail (by decide) rfl

theorem delivered_marked_failed :
    ¬ ∀ (faults : Faults) (tgToken : String) (sender : Sender) (client : Client)
      (row : TelegramRow), Start client row -> tgToken ≠ "" -> faults.recovery = false ->
        Truthful (telegramBranch faults tgToken sender true client) := by
  intro all
  have truthful := all updateFails "123456:AbC_d-9zQ" confirmed afterMail
    ⟨false, none, 0, none, none⟩ start_afterMail (by decide) rfl
  rcases truthful with ⟨row, found, accepted, -⟩
  have failed : (telegramBranch updateFails "123456:AbC_d-9zQ" confirmed true
      afterMail).committed.row.map TelegramRow.skippedReason = some (some .sendFailed) := by
    decide
  rw [found] at failed
  exact accepted (by decide) (Option.some.inj failed)

end TelegramDigest

end LevelChannel
