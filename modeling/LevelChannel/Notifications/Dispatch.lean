import Mathlib.Data.List.Count
import LevelChannel.Tables.Rows
import LevelChannel.Schema.Identifiers

namespace LevelChannel

open Tables

namespace Notifications

/-!
# Lesson notifications

After a lesson has changed, its other party gets an e-mail and a Telegram message.  The
log of these messages has one row for each message there is to send, and a message is sent
unless its row says that it was.  The row is written after the attempt and never changed,
so the first attempt decides for good what the log says.
-/

inductive LessonEventKind where
  | lessonCancelledByTeacher
  | lessonCancelledByLearner
  | lessonRescheduledByLearner
  | lessonRescheduledByTeacher
  | lessonMarkedPaidByTeacher
  | lessonMarkedCompleteByTeacher
  | lessonMarkedNoShowByTeacher
  | lessonStatusChangedByTeacher
  | paymentClaimConfirmed
  | paymentClaimDeclined
  | paymentRefundIssued
  | sbpClaimSubmittedByLearner
  | lessonDirectlyAssignedByTeacher
  deriving DecidableEq, Repr

inductive Channel where
  | email
  | telegram
  deriving DecidableEq, Repr

inductive Status where
  | sent
  | failed
  | skipped
  deriving DecidableEq, Repr

inductive RecipientRole where
  | teacher
  | learner
  deriving DecidableEq, Repr

/-- The argument of `dispatchLessonEvent`, without the texts the templates are filled with. -/
structure LessonEventCtx where
  slotId : Option RowId
  claimId : Option RowId
  refundId : Option RowId
  recipientAccountId : RowId
  recipientRole : RecipientRole
  iterSeq : Nat
  deriving DecidableEq, Repr

/-- The text `kind:related:channel:iter_seq`, none of whose parts has a colon.  Nothing
related is spelled `unknown`. -/
structure DedupKey where
  kind : LessonEventKind
  relatedId : Option RowId
  channel : Channel
  iterSeq : Nat
  deriving DecidableEq, Repr

def relatedId (ctx : LessonEventCtx) : Option RowId :=
  (ctx.slotId.or ctx.claimId).or ctx.refundId

def dedupKey (kind : LessonEventKind) (ctx : LessonEventCtx) (channel : Channel) : DedupKey :=
  ⟨kind, relatedId ctx, channel, ctx.iterSeq⟩

/-- A row of `notification_log`, without the payload kept for a replay. -/
structure NotificationRow where
  eventKind : LessonEventKind
  relatedSlotId : Option RowId
  relatedClaimId : Option RowId
  relatedRefundId : Option RowId
  recipientAccountId : RowId
  channel : Channel
  status : Status
  dedupKey : DedupKey
  errorText : Option String
  deriving DecidableEq, Repr

structure Outbox where
  log : List NotificationRow
  sends : List DedupKey

inductive EmailAnswer where
  | ok
  | error (text : String)
  | threw (message : String)
  deriving DecidableEq, Repr

inductive TelegramReason where
  | noToken
  | noChatId
  | timeout
  | apiError
  deriving DecidableEq, Repr

def TelegramReason.text : TelegramReason -> String
  | .noToken => "no_token"
  | .noChatId => "no_chat_id"
  | .timeout => "timeout"
  | .apiError => "api_error"

inductive TelegramAnswer where
  | ok
  | refused (reason : TelegramReason) (errorText : Option String)
  | threw (message : String)
  deriving DecidableEq, Repr

/-- What an attempt comes to: the status, the text for the log and the one for the result. -/
structure Outcome where
  status : Status
  logText : Option String
  errorText : Option String
  deriving DecidableEq, Repr

def emailOutcome : EmailAnswer -> Outcome
  | .ok => ⟨.sent, none, none⟩
  | .error text => ⟨.failed, some text, some text⟩
  | .threw message => ⟨.failed, some message, some message⟩

def telegramOutcome : TelegramAnswer -> Outcome
  | .ok => ⟨.sent, none, none⟩
  | .refused .noToken _ => ⟨.skipped, some TelegramReason.noToken.text, none⟩
  | .refused .noChatId _ => ⟨.skipped, some TelegramReason.noChatId.text, none⟩
  | .refused reason errorText =>
    ⟨.failed, some (errorText.getD reason.text), some (errorText.getD reason.text)⟩
  | .threw message => ⟨.failed, some message, some message⟩

/-- What the queries for one channel come to.  The preference is absent when its query
fails, and the other two may fail as well. -/
structure ChannelQueries where
  preference : Option Bool
  lookupFails : Bool
  insertFails : Bool
  deriving DecidableEq, Repr

/-- What `resolveRecipient` comes to. -/
inductive Resolution where
  | resolved
  | roleMismatch (actualIsTeacher : Bool) (message : String)
  | failed (message : String)
  deriving DecidableEq, Repr

structure World where
  recipient : Resolution
  emailQueries : ChannelQueries
  email : EmailAnswer
  telegramQueries : ChannelQueries
  telegram : TelegramAnswer
  deriving DecidableEq, Repr

namespace Outbox

variable (outbox : Outbox)

def isAlreadySent (key : DedupKey) : Bool :=
  outbox.log.any fun row => row.dedupKey = key && row.status = .sent

def hasRow (key : DedupKey) : Bool :=
  outbox.log.any fun row => row.dedupKey = key

/-- `persistLog`.  A key that has a row keeps it, and an error is swallowed. -/
def persistLog (kind : LessonEventKind) (ctx : LessonEventCtx) (channel : Channel)
    (status : Status) (errorText : Option String) (insertFails : Bool) : Outbox :=
  if insertFails || outbox.hasRow (dedupKey kind ctx channel) then outbox
  else
    { outbox with log := outbox.log ++ [⟨kind, ctx.slotId, ctx.claimId, ctx.refundId,
        ctx.recipientAccountId, channel, status, dedupKey kind ctx channel, errorText⟩] }

def record (key : DedupKey) (outcome : Outcome) : Outbox :=
  if outcome.status = .sent then { outbox with sends := key :: outbox.sends } else outbox

/-- The part of `dispatchLessonEvent` for one channel.  Without a result the call rejects. -/
def dispatchChannel (kind : LessonEventKind) (ctx : LessonEventCtx) (channel : Channel)
    (allowed : Bool) (queries : ChannelQueries) (outcome : Outcome) :
    Outbox × Option (Status × Option String) :=
  match queries.preference with
  | none => (outbox, none)
  | some allowedByPref =>
    if allowed && allowedByPref then
      if queries.lookupFails then (outbox, none)
      else if outbox.isAlreadySent (dedupKey kind ctx channel) then
        (outbox.persistLog kind ctx channel .skipped (some "dedup") queries.insertFails,
          some (.skipped, none))
      else
        ((outbox.record (dedupKey kind ctx channel) outcome).persistLog kind ctx channel
            outcome.status outcome.logText queries.insertFails,
          some (outcome.status, outcome.errorText))
    else if allowed then
      (outbox.persistLog kind ctx channel .skipped (some "user_pref_off") queries.insertFails,
        some (.skipped, none))
    else (outbox, some (.skipped, none))

end Outbox

structure DispatchResult where
  email : Status
  telegram : Status
  emailErrorText : Option String
  telegramErrorText : Option String
  deriving DecidableEq, Repr

/-- A call of `dispatchLessonEvent` and the world it meets. -/
structure Call where
  kind : LessonEventKind
  ctx : LessonEventCtx
  channels : List Channel
  world : World

def roleMismatchText (actualIsTeacher : Bool) : String :=
  "role_mismatch: " ++ if actualIsTeacher then "is_teacher" else "is_learner"

def dispatchLessonEvent (outbox : Outbox) (call : Call) : Outbox × Option DispatchResult :=
  match call.world.recipient with
  | .roleMismatch actualIsTeacher message =>
    let first := outbox.persistLog call.kind call.ctx .email .failed (some message)
      call.world.emailQueries.insertFails
    (first.persistLog call.kind call.ctx .telegram .failed (some message)
        call.world.telegramQueries.insertFails,
      some ⟨.failed, .failed, some (roleMismatchText actualIsTeacher), none⟩)
  | .failed message => (outbox, some ⟨.failed, .failed, some message, none⟩)
  | .resolved =>
    match outbox.dispatchChannel call.kind call.ctx .email (call.channels.contains .email)
        call.world.emailQueries (emailOutcome call.world.email) with
    | (outbox, none) => (outbox, none)
    | (outbox, some email) =>
      match outbox.dispatchChannel call.kind call.ctx .telegram
          (call.channels.contains .telegram) call.world.telegramQueries
          (telegramOutcome call.world.telegram) with
      | (outbox, none) => (outbox, none)
      | (outbox, some telegram) => (outbox, some ⟨email.1, telegram.1, email.2, telegram.2⟩)

def dispatchAll (outbox : Outbox) (calls : List Call) : Outbox :=
  calls.foldl (fun outbox call => (dispatchLessonEvent outbox call).1) outbox

/-! ## Once, and in the log -/

/-- No message has been taken twice, and every message that was taken is `sent` in the
log. -/
def OnceAndLogged (outbox : Outbox) : Prop :=
  ∀ key, outbox.sends.count key ≤ 1 ∧
    (key ∈ outbox.sends -> outbox.isAlreadySent key = true)

/-- The attempt on one channel reaches the provider, which takes the message. -/
def ChannelQueries.delivers (outbox : Outbox) (key : DedupKey) (allowed : Bool)
    (queries : ChannelQueries) (outcome : Outcome) : Bool :=
  allowed && queries.preference = some true && !queries.lookupFails &&
    !outbox.isAlreadySent key && outcome.status = .sent

def ChannelQueries.answers (allowed : Bool) (queries : ChannelQueries) : Bool :=
  match queries.preference with
  | none => false
  | some allowedByPref => !(allowed && allowedByPref && queries.lookupFails)

/-- A message is taken at the first attempt that is logged, and that row gets written. -/
def ChannelQueries.Orderly (outbox : Outbox) (key : DedupKey) (allowed : Bool)
    (queries : ChannelQueries) (outcome : Outcome) : Prop :=
  queries.delivers outbox key allowed outcome = true ->
    outbox.hasRow key = false ∧ queries.insertFails = false

/-- No message of the call is taken after an earlier attempt has left a row for it, or
without leaving one. -/
def Orderly (outbox : Outbox) (call : Call) : Prop :=
  call.world.recipient = .resolved ->
    call.world.emailQueries.Orderly outbox (dedupKey call.kind call.ctx .email)
        (call.channels.contains .email) (emailOutcome call.world.email) ∧
      (call.world.emailQueries.answers (call.channels.contains .email) = true ->
        call.world.telegramQueries.Orderly outbox (dedupKey call.kind call.ctx .telegram)
          (call.channels.contains .telegram) (telegramOutcome call.world.telegram))

def AllOrderly : Outbox -> List Call -> Prop
  | _, [] => True
  | outbox, call :: calls =>
    Orderly outbox call ∧ AllOrderly (dispatchLessonEvent outbox call).1 calls

namespace Outbox

variable {outbox : Outbox} {kind : LessonEventKind} {ctx : LessonEventCtx} {channel : Channel}
  {status : Status} {errorText : Option String} {insertFails allowed : Bool} {key : DedupKey}
  {queries : ChannelQueries} {outcome : Outcome}

@[simp] theorem persistLog_sends :
    (outbox.persistLog kind ctx channel status errorText insertFails).sends = outbox.sends := by
  unfold persistLog
  split <;> rfl

@[simp] theorem record_log : (outbox.record key outcome).log = outbox.log := by
  unfold record
  split <;> rfl

theorem isAlreadySent_record (other : DedupKey) :
    (outbox.record key outcome).isAlreadySent other = outbox.isAlreadySent other := by
  simp only [isAlreadySent, record_log]

theorem hasRow_record (other : DedupKey) :
    (outbox.record key outcome).hasRow other = outbox.hasRow other := by
  simp only [hasRow, record_log]

theorem isAlreadySent_persistLog_quiet (quiet : status ≠ .sent) (other : DedupKey) :
    (outbox.persistLog kind ctx channel status errorText insertFails).isAlreadySent other =
      outbox.isAlreadySent other := by
  unfold persistLog
  split
  · rfl
  · simp [isAlreadySent, List.any_append, quiet]

theorem isAlreadySent_persistLog_of_ne (different : dedupKey kind ctx channel ≠ key) :
    (outbox.persistLog kind ctx channel status errorText insertFails).isAlreadySent key =
      outbox.isAlreadySent key := by
  unfold persistLog
  split
  · rfl
  · simp [isAlreadySent, List.any_append, different]

theorem hasRow_persistLog_of_ne (different : dedupKey kind ctx channel ≠ key) :
    (outbox.persistLog kind ctx channel status errorText insertFails).hasRow key =
      outbox.hasRow key := by
  unfold persistLog
  split
  · rfl
  · simp [hasRow, List.any_append, different]

theorem isAlreadySent_persistLog_fresh (fresh : outbox.hasRow (dedupKey kind ctx channel) = false)
    (written : insertFails = false) :
    (outbox.persistLog kind ctx channel .sent errorText insertFails).isAlreadySent
      (dedupKey kind ctx channel) = true := by
  simp [persistLog, fresh, written, isAlreadySent]

theorem persistLog_unwritten
    (unwritten : ¬ (outbox.hasRow (dedupKey kind ctx channel) = false ∧ insertFails = false)) :
    outbox.persistLog kind ctx channel status errorText insertFails = outbox := by
  unfold persistLog
  rw [if_pos]
  cases failed : insertFails with
  | true => rfl
  | false =>
    rw [Bool.false_or]
    exact Bool.of_not_eq_false fun fresh => unwritten ⟨fresh, failed⟩

/-! ### What one part does to the law -/

theorem onceAndLogged_quiet (quiet : status ≠ .sent) :
    OnceAndLogged (outbox.persistLog kind ctx channel status errorText insertFails) <->
      OnceAndLogged outbox := by
  simp only [OnceAndLogged, persistLog_sends, isAlreadySent_persistLog_quiet quiet]

theorem onceAndLogged_delivered (outcomeText : Option String)
    (unsent : outbox.isAlreadySent (dedupKey kind ctx channel) = false) :
    OnceAndLogged ({ outbox with sends := dedupKey kind ctx channel :: outbox.sends }.persistLog
        kind ctx channel .sent outcomeText insertFails) <->
      OnceAndLogged outbox ∧
        outbox.hasRow (dedupKey kind ctx channel) = false ∧ insertFails = false := by
  generalize sent : dedupKey kind ctx channel = key
  by_cases written : outbox.hasRow key = false ∧ insertFails = false
  · constructor
    · intro kept
      refine ⟨fun other => ?_, written⟩
      have law := kept other
      simp only [persistLog_sends, List.count_cons, List.mem_cons] at law
      by_cases same : other = key
      · subst other
        simp only [beq_self_eq_true, if_true] at law
        have none_sent : outbox.sends.count key = 0 := by omega
        refine ⟨by omega, fun member => ?_⟩
        exact absurd member (List.count_eq_zero.mp none_sent)
      · have different : (key == other) = false := beq_eq_false_iff_ne.mpr (Ne.symm same)
        simp only [different, Bool.false_eq_true, if_false, add_zero] at law
        refine ⟨law.1, fun member => ?_⟩
        have shown := law.2 (Or.inr member)
        rw [isAlreadySent_persistLog_of_ne (sent ▸ Ne.symm same)] at shown
        exact shown
    · rintro ⟨kept, -⟩ other
      simp only [persistLog_sends, List.count_cons, List.mem_cons]
      by_cases same : other = key
      · subst other
        have fresh : key ∉ outbox.sends := by
          intro member
          have shown := (kept key).2 member
          rw [<- sent, unsent] at shown
          cases shown
        rw [List.count_eq_zero.mpr fresh]
        refine ⟨by simp, fun _ => ?_⟩
        subst sent
        exact isAlreadySent_persistLog_fresh written.1 written.2
      · have different : (key == other) = false := beq_eq_false_iff_ne.mpr (Ne.symm same)
        simp only [different, Bool.false_eq_true, if_false, add_zero]
        refine ⟨(kept other).1, fun member => ?_⟩
        rw [isAlreadySent_persistLog_of_ne (sent ▸ Ne.symm same)]
        exact (kept other).2 (member.resolve_left same)
  · constructor
    · intro kept
      subst sent
      have unwritten : { outbox with sends := dedupKey kind ctx channel :: outbox.sends }.persistLog
          kind ctx channel .sent outcomeText insertFails =
            { outbox with sends := dedupKey kind ctx channel :: outbox.sends } :=
        persistLog_unwritten written
      rw [unwritten] at kept
      have shown : outbox.isAlreadySent (dedupKey kind ctx channel) = true :=
        (kept (dedupKey kind ctx channel)).2 List.mem_cons_self
      rw [unsent] at shown
      cases shown
    · rintro ⟨-, orderly⟩
      exact absurd orderly written

theorem onceAndLogged_dispatchChannel :
    OnceAndLogged (outbox.dispatchChannel kind ctx channel allowed queries outcome).1 <->
      OnceAndLogged outbox ∧
        queries.Orderly outbox (dedupKey kind ctx channel) allowed outcome := by
  have idle (no : queries.delivers outbox (dedupKey kind ctx channel) allowed outcome = false) :
      OnceAndLogged outbox <-> OnceAndLogged outbox ∧
        queries.Orderly outbox (dedupKey kind ctx channel) allowed outcome := by
    refine (and_iff_left fun delivers => ?_).symm
    rw [no] at delivers
    cases delivers
  unfold dispatchChannel
  cases preference : queries.preference with
  | none => exact idle (by simp [ChannelQueries.delivers, preference])
  | some allowedByPref =>
    by_cases attempted : (allowed && allowedByPref) = true
    · have both := Bool.and_eq_true_iff.mp attempted
      simp only [attempted, if_true]
      by_cases fails : queries.lookupFails = true
      · simp only [fails, if_true]
        exact idle (by simp [ChannelQueries.delivers, fails])
      · simp only [fails, Bool.false_eq_true, if_false]
        by_cases already : outbox.isAlreadySent (dedupKey kind ctx channel) = true
        · simp only [already, if_true]
          rw [onceAndLogged_quiet (by decide)]
          exact idle (by simp [ChannelQueries.delivers, already])
        · simp only [already, Bool.false_eq_true, if_false]
          by_cases taken : outcome.status = .sent
          · have delivers : queries.delivers outbox (dedupKey kind ctx channel) allowed outcome =
                true := by
              simp [ChannelQueries.delivers, preference, both.1, both.2, fails, already, taken]
            simp only [record, taken, if_true]
            rw [onceAndLogged_delivered _ (Bool.of_not_eq_true already)]
            simp only [ChannelQueries.Orderly, delivers, true_implies]
          · simp only [record, taken, if_false]
            rw [onceAndLogged_quiet taken]
            exact idle (by simp [ChannelQueries.delivers, taken])
    · have no : queries.delivers outbox (dedupKey kind ctx channel) allowed outcome = false := by
        cases allowed <;> cases allowedByPref <;>
          simp_all [ChannelQueries.delivers]
      simp only [attempted, Bool.false_eq_true, if_false]
      split
      · rw [onceAndLogged_quiet (by decide)]
        exact idle no
      · exact idle no

theorem dispatchChannel_isSome :
    (outbox.dispatchChannel kind ctx channel allowed queries outcome).2.isSome =
      queries.answers allowed := by
  unfold dispatchChannel ChannelQueries.answers
  cases queries.preference with
  | none => rfl
  | some allowedByPref =>
    cases allowed with
    | false => simp
    | true =>
      cases allowedByPref with
      | false => simp
      | true =>
        cases queries.lookupFails with
        | true => simp
        | false =>
          simp only [Bool.and_self, if_true, Bool.false_eq_true, if_false, Bool.and_false,
            Bool.not_false]
          split <;> rfl

theorem dispatchChannel_of_ne (different : dedupKey kind ctx channel ≠ key) :
    (outbox.dispatchChannel kind ctx channel allowed queries outcome).1.isAlreadySent key =
        outbox.isAlreadySent key ∧
      (outbox.dispatchChannel kind ctx channel allowed queries outcome).1.hasRow key =
        outbox.hasRow key := by
  unfold dispatchChannel
  cases queries.preference with
  | none => exact ⟨rfl, rfl⟩
  | some allowedByPref =>
    simp only
    split
    · split
      · exact ⟨rfl, rfl⟩
      · split
        · exact ⟨isAlreadySent_persistLog_of_ne different, hasRow_persistLog_of_ne different⟩
        · constructor
          · rw [isAlreadySent_persistLog_of_ne different, isAlreadySent_record]
          · rw [hasRow_persistLog_of_ne different, hasRow_record]
    · split
      · exact ⟨isAlreadySent_persistLog_of_ne different, hasRow_persistLog_of_ne different⟩
      · exact ⟨rfl, rfl⟩

theorem orderly_congr {other : Outbox} (sent : other.isAlreadySent key = outbox.isAlreadySent key)
    (row : other.hasRow key = outbox.hasRow key) :
    queries.Orderly other key allowed outcome <-> queries.Orderly outbox key allowed outcome := by
  simp only [ChannelQueries.Orderly, ChannelQueries.delivers, sent, row]

end Outbox

variable {outbox : Outbox}

theorem onceAndLogged_dispatch (call : Call) : OnceAndLogged (dispatchLessonEvent outbox call).1 <->
      OnceAndLogged outbox ∧ Orderly outbox call := by
  unfold dispatchLessonEvent Orderly
  cases call.world.recipient with
  | roleMismatch actualIsTeacher message =>
    have failed : Status.failed ≠ .sent := by decide
    simp only [Outbox.onceAndLogged_quiet failed, reduceCtorEq, false_implies, and_true]
  | failed message => simp only [reduceCtorEq, false_implies, and_true]
  | resolved =>
    simp only [true_implies]
    have different : dedupKey call.kind call.ctx .email ≠
        dedupKey call.kind call.ctx .telegram := by
      intro same
      cases congrArg DedupKey.channel same
    have apart := @Outbox.dispatchChannel_of_ne outbox call.kind call.ctx .email
      (call.channels.contains .email) _ call.world.emailQueries (emailOutcome call.world.email)
      different
    have ended := @Outbox.dispatchChannel_isSome outbox call.kind call.ctx .email
      (call.channels.contains .email) call.world.emailQueries (emailOutcome call.world.email)
    have first := @Outbox.onceAndLogged_dispatchChannel outbox call.kind call.ctx .email
      (call.channels.contains .email) call.world.emailQueries (emailOutcome call.world.email)
    generalize outbox.dispatchChannel call.kind call.ctx .email (call.channels.contains .email)
      call.world.emailQueries (emailOutcome call.world.email) = email at apart ended first
    rcases email with ⟨middle, answer⟩
    cases answer with
    | none =>
      rw [<- ended]
      simp only [Option.isSome_none, Bool.false_eq_true, false_implies, and_true]
      exact first
    | some result =>
      rw [<- ended]
      simp only [Option.isSome_some, true_implies]
      have second := @Outbox.onceAndLogged_dispatchChannel middle call.kind call.ctx .telegram
        (call.channels.contains .telegram) call.world.telegramQueries
        (telegramOutcome call.world.telegram)
      rw [Outbox.orderly_congr apart.1 apart.2, first, and_assoc] at second
      generalize middle.dispatchChannel call.kind call.ctx .telegram
        (call.channels.contains .telegram) call.world.telegramQueries
        (telegramOutcome call.world.telegram) = telegram at second
      rcases telegram with ⟨last, answer⟩
      cases answer <;> exact second

theorem onceAndLogged_dispatchAll (calls : List Call) : OnceAndLogged (dispatchAll outbox calls) <->
      OnceAndLogged outbox ∧ AllOrderly outbox calls := by
  induction calls generalizing outbox with
  | nil => exact (and_iff_left trivial).symm
  | cons call calls extend =>
    rw [dispatchAll, List.foldl_cons, <- dispatchAll, extend, onceAndLogged_dispatch, AllOrderly,
      and_assoc]

/-- After any calls, with nothing sent before them, every message was taken at most once
and those taken are `sent` in the log, if and only if no message was taken after an
attempt that had already left a row, or without leaving one. -/
theorem notifications_once_iff (log : List NotificationRow) (calls : List Call) :
    OnceAndLogged (dispatchAll ⟨log, []⟩ calls) <-> AllOrderly ⟨log, []⟩ calls := by
  rw [onceAndLogged_dispatchAll]
  refine and_iff_right fun key => ⟨Nat.zero_le _, fun member => ?_⟩
  cases member

def cancellationNotice (email : EmailAnswer) : Call where
  kind := .lessonCancelledByTeacher
  ctx := ⟨some (.seeded 1), none, none, .seeded 2, .learner, 3⟩
  channels := [.email]
  world := ⟨.resolved, ⟨some true, false, false⟩, email, ⟨some true, false, false⟩, .ok⟩

/-- The first attempt fails and is logged; the second goes through, but the log keeps saying
that the message failed. -/
theorem notification_unlogged : ¬ ∀ (log : List NotificationRow) (calls : List Call),
      OnceAndLogged (dispatchAll ⟨log, []⟩ calls) := by
  intro law
  have shown := (law [] [cancellationNotice (.error "timeout"), cancellationNotice .ok]
    (dedupKey .lessonCancelledByTeacher ⟨some (.seeded 1), none, none, .seeded 2, .learner, 3⟩
      .email)).2
  revert shown
  decide

/-- So the third attempt sends it once more. -/
example : (dispatchAll ⟨[], []⟩ [cancellationNotice (.error "timeout"), cancellationNotice .ok,
    cancellationNotice .ok]).sends.length = 2 := by decide

end Notifications
end LevelChannel
