import LevelChannel.ReadCommitted.Sessions
import LevelChannel.Tables.Rows
import LevelChannel.Schema.Identifiers

namespace LevelChannel

open ReadCommitted Tables

namespace TelegramCodes

/-!
# Codes that bind a Telegram chat

A learner asks for a code and sends it to the bot, which binds the chat and consumes the code.
Asking for a code deletes the account's codes that have not been consumed, and then inserts a new
one.  These are two statements, each a transaction of its own, under no lock: two calls that both
delete before either inserts leave two codes.

The bot works in one transaction under a lock of the account, which the calls never ask for.  It
only ever takes codes away.
-/

/-! ## Rows -/

inductive BindKind where
  | learner
  | teacher
  deriving DecidableEq

/-- A row of `learner_telegram_bind_codes` or of `teacher_telegram_bind_codes`.  The last field is
in no table: how many codes of learners had been inserted before. -/
structure BindCodeRow where
  id : RowId
  accountId : RowId
  code : String
  createdAt : Nat
  expiresAt : Nat
  consumedAt : Option Nat
  consumedChatId : Option String
  moment : Nat
  deriving DecidableEq

structure BindAccount where
  id : RowId
  scheduledPurgeAt : Option Nat
  telegramEnabled : BindKind -> Bool
  telegramChatId : BindKind -> Option String

/-- The tables, with the master switches and the accounts that have accepted the offer.  The last
two fields are in no table: how many codes of learners have been inserted, and whether one has been
when a code was live that had been inserted since the call's delete. -/
structure BindDb where
  clock : Nat
  codes : BindKind -> List BindCodeRow
  accounts : List BindAccount
  switches : BindKind -> Bool
  saasOffer : List RowId
  issued : Nat
  crossed : Bool

def BindCodeRow.live (row : BindCodeRow) (clock : Nat) : Bool :=
  row.consumedAt.isNone && decide (clock < row.expiresAt)

inductive BindWrite where
  | delete (ids : List RowId)
  | insert (row : BindCodeRow) (seen : Nat)
  | consume (kind : BindKind) (id : RowId) (chatId : String)
  | bind (kind : BindKind) (accountId : RowId) (chatId : String)

inductive BindLock where
  | account (kind : BindKind) (id : RowId)
  | code (kind : BindKind) (id : RowId)
  deriving DecidableEq

namespace BindDb

variable (db : BindDb)

def live (accountId : RowId) : List BindCodeRow :=
  (db.codes .learner).filter fun row => row.accountId = accountId && row.live db.clock

def resolve (kind : BindKind) (code : String) : List BindCodeRow :=
  (db.codes kind).filter fun row => row.code = code && row.live db.clock

def unconsumed (accountId : RowId) : List BindCodeRow :=
  (db.codes .learner).filter fun row => row.accountId = accountId && row.consumedAt.isNone

def purging (accountId : RowId) : Bool :=
  (get BindAccount.id db.accounts accountId).any fun row => row.scheduledPurgeAt.isSome

/-- A code of the account is live that was inserted since a delete. -/
def overtaken (accountId : RowId) (seen : Nat) : Bool :=
  (db.live accountId).any fun row => seen ≤ row.moment

def setCodes (kind : BindKind) (rows : List BindCodeRow) : BindDb :=
  { db with codes := fun other => if other = kind then rows else db.codes other }

def apply : BindWrite -> BindDb
  | .delete ids =>
    db.setCodes .learner ((db.codes .learner).filter fun row =>
      !(decide (row.id ∈ ids) && row.consumedAt.isNone))
  | .insert row seen =>
    { db.setCodes .learner ({ row with moment := db.issued } :: db.codes .learner) with
      issued := db.issued + 1
      crossed := db.crossed || db.overtaken row.accountId seen }
  | .consume kind id chatId =>
    db.setCodes kind ((db.codes kind).map fun row =>
      if row.id = id then
        { row with consumedAt := some db.clock, consumedChatId := some chatId }
      else row)
  | .bind kind accountId chatId =>
    { db with
      accounts := db.accounts.map fun row =>
        if row.id = accountId then
          { row with
            telegramEnabled := fun other => if other = kind then true else row.telegramEnabled other
            telegramChatId := fun other =>
              if other = kind then some chatId else row.telegramChatId other }
        else row }

end BindDb

/-- Time passes; codes are swept or go with their accounts; teachers get and lose codes; accounts,
switches and consents change as they like. -/
structure BindDrift where
  elapsed : Nat
  swept : List RowId
  teacherCodes : List BindCodeRow
  accounts : List BindAccount
  switches : BindKind -> Bool
  saasOffer : List RowId

def BindDb.drift (db : BindDb) (change : BindDrift) : BindDb :=
  { db with
    clock := db.clock + change.elapsed
    codes := fun
      | .learner => (db.codes .learner).filter fun row => row.id ∉ change.swept
      | .teacher => change.teacherCodes
    accounts := change.accounts
    switches := change.switches
    saasOffer := change.saasOffer }

def bindStore : Store BindDb BindLock BindWrite BindDrift where
  apply := BindDb.apply
  drift := fun change db => db.drift change
  close := fun _ db => db
  conflict := fun first second => first = second
  conflict_comm := fun _ _ => decide_eq_decide.mpr eq_comm

inductive BindReply where
  | issued (code : String) (expiresAt : Nat)
  | rateLimited
  | accountUnavailable
  | channelDisabled
  | told (text : String)
  | thrown
  deriving DecidableEq

abbrev BindProgram := ReadCommitted.Program BindDb BindLock BindWrite Unit Bool BindReply

abbrev BindState := ReadCommitted.State BindDb BindLock BindWrite Unit Bool BindReply

/-! ## The programs -/

def ttlMs : Nat := 10 * 60 * 1000

/-- `issueBindCode`: the delete and the insert, each committed before the next. -/
def issueBindCode (id accountId : RowId) (code : String) (now : Nat) : BindProgram :=
  .statement () [] (.done .thrown)
    (fun _ own => [.delete ((own.unconsumed accountId).map BindCodeRow.id)])
    fun _ own =>
      .commit (.done .thrown)
        (.statement () [] (.done .thrown)
          (fun _ _ => [.insert
            ⟨id, accountId, code, now, now + ttlMs, none, none, 0⟩ own.issued])
          fun _ _ => .commit (.done .thrown) (.done (.issued code (now + ttlMs))))

/-- `requestLearnerTelegramBindCode` for a session's account. -/
def requestLearnerTelegramBindCode (id accountId : RowId) (code : String) (now : Nat) :
    BindProgram :=
  .reading () (.done .thrown) fun committed _ =>
    let purging := committed.purging accountId
    .call () (fun _ _ => []) fun _ passes =>
      if !passes then .done .rateLimited
      else if purging then .done .accountUnavailable
      else
        .reading () (.done .thrown) fun committed _ =>
          if !committed.switches .learner then .done .channelDisabled
          else issueBindCode id accountId code now

def boundText : BindKind -> String
  | .learner =>
    "Готово! Теперь напоминания о занятиях LevelChannel будут приходить сюда. Чтобы " ++
      "отписаться, отправьте /stop."
  | .teacher =>
    "Готово! Утренний дайджест занятий LevelChannel будет приходить сюда в 08:00 по вашему " ++
      "часовому поясу. Чтобы отписаться, отправьте /stop."

def disabledText : BindKind -> String
  | .learner => "Канал «напоминания учащимся» сейчас выключен оператором. Попробуйте позже."
  | .teacher => "Канал «дайджест учителя» сейчас выключен оператором. Попробуйте позже."

/-- The end of `handleStart`, once the code is found again under the lock. -/
def consumeBindCode (kind : BindKind) (accountId rowId : RowId) (chatId : String) : BindProgram :=
  .reading () (.done .thrown) fun _ own =>
    if own.purging accountId then .rollback (.done (.told "Аккаунт недоступен."))
    else
      .reading () (.done .thrown) fun committed _ =>
        if kind = .teacher ∧ accountId ∉ committed.saasOffer then
          .rollback (.done (.told ("Завершите подтверждение SaaS-оферты в кабинете " ++
            "LevelChannel перед привязкой Telegram.")))
        else
          .writing () [] (.done .thrown) (fun _ => [.consume kind rowId chatId]) fun _ =>
            .writing () [] (.done .thrown) (fun _ => [.bind kind accountId chatId]) fun _ =>
              .commit (.done .thrown) (.done (.told (boundText kind)))

/-- `handleStart`, for a code of the right form. -/
def handleStart (code chatId : String) : BindProgram :=
  .reading () (.done .thrown) fun _ own =>
    match (own.resolve .learner code).map (fun row => (BindKind.learner, row.accountId)) ++
        (own.resolve .teacher code).map (fun row => (BindKind.teacher, row.accountId)) with
    | [] =>
      .rollback (.done (.told
        "Код не найден или истёк. Получите новый в личном кабинете LevelChannel."))
    | [(kind, accountId)] =>
      .reading () (.done .thrown) fun committed _ =>
        if !committed.switches kind then .rollback (.done (.told (disabledText kind)))
        else
          .acquiring () [.account kind accountId] (.done .thrown) fun _ _ =>
            .reading () (.done .thrown) fun _ own =>
              match own.resolve kind code with
              | [] => .rollback (.done (.told "Код просрочен или уже использован."))
              | row :: _ =>
                .acquiring () [.code kind row.id] (.done .thrown) fun _ _ =>
                  consumeBindCode kind accountId row.id chatId
    | _ =>
      .rollback (.done (.told
        "Внутренняя ошибка. Получите новый код в личном кабинете."))

inductive BindRequest where
  | issue (accountId : RowId) (code : String) (now : Nat)
  | start (code chatId : String)

def BindRequest.program (request : BindRequest) (session : Nat) : BindProgram :=
  match request with
  | .issue accountId code now =>
    requestLearnerTelegramBindCode (.minted session 0) accountId code now
  | .start code chatId => handleStart code chatId

def BindDb.opening (clock : Nat) (people : BindDrift) : BindDb :=
  BindDb.drift ⟨clock, fun _ => [], [], fun _ => false, [], 0, false⟩ people

def bindOpening (clock : Nat) (people : BindDrift) (requests : Nat -> BindRequest) : BindState :=
  State.start (.opening clock people) fun session => (requests session).program session

namespace BindDb

variable {db before after : BindDb} {accountId : RowId} {ids : List RowId} {seen : Nat}

def AtMostOne (db : BindDb) : Prop :=
  ∀ accountId, (db.live accountId).length ≤ 1

/-- Where no insert has met a code that came after its delete, no account has two. -/
def Uncrossed (db : BindDb) : Prop :=
  db.crossed = false -> db.AtMostOne

/-- Codes come with the number of those before them, and no consumed one is given back. -/
structure Passes (before after : BindDb) : Prop where
  issued : before.issued ≤ after.issued
  codes : ∀ row, row ∈ after.codes .learner -> before.issued ≤ row.moment ∨
    ∃ old, old ∈ before.codes .learner ∧ old.id = row.id ∧ old.accountId = row.accountId ∧
      old.moment = row.moment ∧ (old.consumedAt.isSome = true -> row.consumedAt.isSome = true)

/-- Of the codes that were there when a call's delete has read, those that are not consumed are
among the ones that it deletes. -/
structure Marked (accountId : RowId) (ids : List RowId) (seen : Nat) (db : BindDb) : Prop where
  counted : seen ≤ db.issued
  codes : ∀ row, row ∈ db.codes .learner -> row.accountId = accountId -> row.moment < seen ->
    row.id ∈ ids ∨ row.consumedAt.isSome = true

end BindDb

def bindContract : Contract BindDb BindLock where
  Good := BindDb.Uncrossed
  Guarantee _ _ before after := BindDb.Passes before after

/-! ## What the writes keep -/

namespace BindDb

variable {db before after : BindDb} {accountId : RowId} {ids : List RowId} {seen : Nat}

theorem codes_setCodes (db : BindDb) (kind : BindKind) (rows : List BindCodeRow) :
    (db.setCodes kind rows).codes kind = rows :=
  if_pos rfl

theorem codes_setCodes_of_ne {kind other : BindKind} (different : other ≠ kind)
    (rows : List BindCodeRow) : (db.setCodes kind rows).codes other = db.codes other :=
  if_neg different

theorem Passes.of_rows (issued : after.issued = before.issued)
    (codes : ∀ row, row ∈ after.codes .learner -> ∃ old,
      old ∈ before.codes .learner ∧ old.id = row.id ∧ old.accountId = row.accountId ∧
        old.moment = row.moment ∧ (old.consumedAt.isSome = true -> row.consumedAt.isSome = true)) :
    Passes before after where
  issued := Nat.le_of_eq issued.symm
  codes row member := Or.inr (codes row member)

theorem Passes.of_subset (issued : after.issued = before.issued)
    (codes : ∀ row, row ∈ after.codes .learner -> row ∈ before.codes .learner) :
    Passes before after :=
  .of_rows issued fun row member => ⟨row, codes row member, rfl, rfl, rfl, id⟩

theorem Passes.refl (db : BindDb) : Passes db db :=
  .of_subset rfl fun _ => id

theorem Marked.passes (marked : Marked accountId ids seen before)
    (passes : Passes before after) : Marked accountId ids seen after where
  counted := Nat.le_trans marked.counted passes.issued
  codes row member mine early := by
    rcases passes.codes row member with late | ⟨old, there, same, owner, moment, consumed⟩
    · exact absurd early (Nat.not_lt_of_le (Nat.le_trans marked.counted late))
    · rcases marked.codes old there (owner.trans mine) (moment ▸ early) with listed | gone
      · exact Or.inl (same ▸ listed)
      · exact Or.inr (consumed gone)

theorem Uncrossed.of_le (uncrossed : Uncrossed before) (crossed : after.crossed = before.crossed)
    (fewer : ∀ accountId, (after.live accountId).length ≤ (before.live accountId).length) :
    Uncrossed after := by
  intro straight accountId
  rw [crossed] at straight
  exact Nat.le_trans (fewer accountId) (uncrossed straight accountId)

theorem live_length_le {change : BindCodeRow -> BindCodeRow} {rows : List BindCodeRow}
    (rows_eq : after.codes .learner = rows.map change)
    (kept : List.Sublist rows (before.codes .learner)) (live : ∀ row accountId,
      ((change row).accountId = accountId && (change row).live after.clock) = true ->
        (row.accountId = accountId && row.live before.clock) = true) (accountId : RowId) :
    (after.live accountId).length ≤ (before.live accountId).length := by
  rw [BindDb.live, BindDb.live, rows_eq, List.filter_map, List.length_map]
  calc (rows.filter _).length
    _ ≤ (rows.filter fun row => row.accountId = accountId && row.live before.clock).length := by
      rw [← List.countP_eq_length_filter, ← List.countP_eq_length_filter]
      exact List.countP_mono_left fun row _ => live row accountId
    _ ≤ _ := (kept.filter _).length_le

theorem apply_delete (uncrossed : Uncrossed db) :
    Uncrossed (db.apply (.delete ids)) ∧ Passes db (db.apply (.delete ids)) := by
  have rows : (db.apply (.delete ids)).codes .learner = (db.codes .learner).filter fun row =>
      !(decide (row.id ∈ ids) && row.consumedAt.isNone) :=
    codes_setCodes _ _ _
  refine ⟨uncrossed.of_le rfl (@live_length_le _ _ id _ (rows.trans (List.map_id _).symm)
    List.filter_sublist fun _ _ => id), .of_subset rfl fun row member => ?_⟩
  rw [rows] at member
  exact List.mem_of_mem_filter member

theorem Marked.delete (marked : Marked accountId ids seen db) :
    Marked accountId [] seen (db.apply (.delete ids)) where
  counted := marked.counted
  codes row member mine early := by
    rw [apply, codes_setCodes, List.mem_filter] at member
    rcases marked.codes row member.1 mine early with listed | gone
    · right
      have kept := member.2
      rw [decide_eq_true listed, Bool.true_and, Bool.not_eq_true', Option.isNone_eq_false_iff]
        at kept
      exact kept
    · exact Or.inr gone

theorem apply_consume (uncrossed : Uncrossed db) (kind : BindKind) (id : RowId) (chatId : String) :
    Uncrossed (db.apply (.consume kind id chatId)) ∧
      Passes db (db.apply (.consume kind id chatId)) := by
  cases kind with
  | teacher =>
    have rows : (db.apply (.consume .teacher id chatId)).codes .learner = db.codes .learner :=
      codes_setCodes_of_ne (by decide) _
    refine ⟨uncrossed.of_le rfl fun accountId => ?_, .of_subset rfl fun row member => rows ▸ member⟩
    rw [BindDb.live, rows]
    exact Nat.le_refl _
  | learner =>
    have rows := codes_setCodes db .learner ((db.codes .learner).map fun row =>
      if row.id = id then
        { row with consumedAt := some db.clock, consumedChatId := some chatId }
      else row)
    refine ⟨uncrossed.of_le rfl (live_length_le rows (List.Sublist.refl _) ?_),
      .of_rows rfl fun row member => ?_⟩
    · intro row accountId
      by_cases consumed : row.id = id
      · simp only [if_pos consumed, BindCodeRow.live, Option.isNone_some, Bool.false_and,
          Bool.and_false, Bool.false_eq_true, false_implies]
      · rw [if_neg consumed]
        exact fun live => live
    · rcases List.mem_map.mp (rows ▸ member) with ⟨old, there, changed⟩
      refine ⟨old, there, ?_⟩
      rw [← changed]
      split
      · exact ⟨rfl, rfl, rfl, fun _ => rfl⟩
      · exact ⟨rfl, rfl, rfl, fun gone => gone⟩

theorem Marked.live_eq_nil (marked : Marked accountId [] seen db)
    (alone : db.overtaken accountId seen = false) : db.live accountId = [] := by
  rw [List.eq_nil_iff_forall_not_mem]
  intro row member
  rw [overtaken, List.any_eq_false] at alone
  have early := alone row member
  rw [decide_eq_true_eq, Nat.not_le] at early
  rw [BindDb.live, List.mem_filter, Bool.and_eq_true, decide_eq_true_eq, BindCodeRow.live,
    Bool.and_eq_true] at member
  rcases marked.codes row member.1 member.2.1 early with listed | gone
  · exact List.not_mem_nil listed
  · have open_ := member.2.2.1
    rw [Option.isNone_iff_eq_none] at open_
    rw [open_] at gone
    cases gone

theorem apply_insert (uncrossed : Uncrossed db) {row : BindCodeRow}
    (marked : Marked row.accountId [] seen db) :
    Uncrossed (db.apply (.insert row seen)) ∧ Passes db (db.apply (.insert row seen)) := by
  have rows : (db.apply (.insert row seen)).codes .learner =
      { row with moment := db.issued } :: db.codes .learner :=
    codes_setCodes db .learner _
  constructor
  · intro straight accountId
    rcases Bool.or_eq_false_iff.mp straight with ⟨before, alone⟩
    by_cases mine : row.accountId = accountId
    · subst mine
      have others : (db.codes .learner).filter (fun other =>
          other.accountId = row.accountId && other.live db.clock) = [] :=
        marked.live_eq_nil alone
      show ((db.apply (.insert row seen)).codes .learner |>.filter fun other =>
        other.accountId = row.accountId && other.live db.clock).length ≤ 1
      rw [rows, List.filter_cons, others]
      split
      · exact Nat.le_refl _
      · exact Nat.zero_le _
    · show ((db.apply (.insert row seen)).codes .learner |>.filter fun other =>
        other.accountId = accountId && other.live db.clock).length ≤ 1
      rw [rows, List.filter_cons_of_neg (by simp [mine])]
      exact uncrossed before accountId
  · refine ⟨Nat.le_succ _, fun other member => ?_⟩
    rw [rows] at member
    rcases List.mem_cons.mp member with rfl | old
    · exact Or.inl (Nat.le_refl _)
    · exact Or.inr ⟨other, old, rfl, rfl, rfl, fun gone => gone⟩

end BindDb

theorem bindContract_steady : bindContract.Steady bindStore where
  drift change db uncrossed := by
    refine BindDb.Uncrossed.of_le uncrossed rfl
      (@BindDb.live_length_le db _ id _ (List.map_id _).symm List.filter_sublist ?_)
    intro row accountId live
    rw [id, Bool.and_eq_true, BindCodeRow.live, Bool.and_eq_true] at live
    have later : db.clock + change.elapsed < row.expiresAt := of_decide_eq_true live.2.2
    rw [Bool.and_eq_true, BindCodeRow.live, Bool.and_eq_true]
    exact ⟨live.1, live.2.1, decide_eq_true (Nat.lt_of_le_of_lt (Nat.le_add_right _ _) later)⟩
  close _ _ db uncrossed := ⟨uncrossed, .refl db⟩

/-! ## What the programs do -/

section Programs

open Contract

variable {permits : Unit -> BindDb -> Prop} {session : Nat} {db : BindDb} {held : List BindLock}
  {accountId : RowId} {ids : List RowId} {seen : Nat}

private abbrev anyCodes (_ : BindDb) : Prop := True

private theorem stable_anyCodes (session : Nat) (held : List BindLock) :
    Stable bindContract bindStore session held anyCodes :=
  Stable.const session held True

theorem stable_marked : Stable bindContract bindStore session held
    (BindDb.Marked accountId ids seen) := by
  rintro before after marked ⟨-, -, ⟨change, rfl⟩ | ⟨other, theirs, -, -, passes⟩⟩
  · exact marked.passes (.of_subset rfl fun row member => List.mem_of_mem_filter member)
  · exact marked.passes passes

theorem safe_undone (reply : BindReply) : bindContract.Safe bindStore permits session
    (.rollback (.done reply) : BindProgram) held [] db :=
  Safe.rollback anyCodes (stable_anyCodes _ _) trivial fun _ _ _ => trivial

theorem safe_issueBindCode (id : RowId) (code : String) (now : Nat) :
    bindContract.Safe bindStore permits session (issueBindCode id accountId code now) held []
      db := by
  refine Safe.statement anyCodes (stable_anyCodes _ _) trivial (fun _ _ _ => trivial)
    fun read _ _ _ => ?_
  have marked : BindDb.Marked accountId ((read.unconsumed accountId).map BindCodeRow.id)
      read.issued read := by
    refine ⟨Nat.le_refl _, fun row member mine _ => ?_⟩
    cases consumed : row.consumedAt with
    | some moment => exact Or.inr rfl
    | none =>
      refine Or.inl (List.mem_map_of_mem (List.mem_filter.mpr ⟨member, ?_⟩))
      rw [decide_eq_true mine, consumed]
      rfl
  refine Safe.commit _ stable_marked marked (fun later _ good => BindDb.apply_delete good)
    (fun later marked _ => ?_) (fun _ _ _ => trivial) (fun _ _ _ => trivial)
  refine Safe.statement _ stable_marked (BindDb.Marked.delete marked) (fun _ _ _ => trivial)
    fun inserting marked _ _ => ?_
  exact Safe.last _ stable_marked marked (fun later marked good => BindDb.apply_insert good marked)
    (fun _ _ => trivial) (fun _ _ => trivial)

theorem safe_request (id : RowId) (code : String) (now : Nat) :
    bindContract.Safe bindStore permits session
      (requestLearnerTelegramBindCode id accountId code now) [] [] db := by
  refine Safe.reading anyCodes (stable_anyCodes _ _) trivial (fun _ _ => trivial)
    fun read _ good _ => ?_
  refine Safe.call anyCodes (stable_anyCodes _ _) trivial
    (fun later _ good _ _ => ⟨good, .refl later⟩) fun later _ _ _ passes => ?_
  split
  · trivial
  · split
    · trivial
    · refine Safe.reading anyCodes (stable_anyCodes _ _) trivial (fun _ _ => trivial)
        fun read _ _ _ => ?_
      split
      · trivial
      · exact safe_issueBindCode id code now

theorem safe_consumeBindCode (kind : BindKind) (rowId : RowId) (chatId : String) :
    bindContract.Safe bindStore permits session (consumeBindCode kind accountId rowId chatId)
      held [] db := by
  refine Safe.reading anyCodes (stable_anyCodes _ _) trivial (fun _ _ => trivial)
    fun read _ _ _ => ?_
  split
  · exact safe_undone _
  · refine Safe.reading anyCodes (stable_anyCodes _ _) trivial (fun _ _ => trivial)
      fun read _ _ _ => ?_
    split
    · exact safe_undone _
    · refine Safe.writing anyCodes (stable_anyCodes _ _) trivial (fun _ _ => trivial)
        fun _ _ _ _ => ?_
      refine Safe.writing anyCodes (stable_anyCodes _ _) trivial (fun _ _ => trivial)
        fun _ _ _ _ => ?_
      refine Safe.last anyCodes (stable_anyCodes _ _) trivial (fun later _ good => ?_)
        (fun _ _ => trivial) (fun _ _ => trivial)
      rcases BindDb.apply_consume good kind rowId chatId with ⟨uncrossed, passes⟩
      -- the chat's account is no concern of the codes
      exact ⟨uncrossed, passes.issued, passes.codes⟩

theorem safe_handleStart (code chatId : String) :
    bindContract.Safe bindStore permits session (handleStart code chatId) [] [] db := by
  refine Safe.reading anyCodes (stable_anyCodes _ _) trivial (fun _ _ => trivial)
    fun read _ _ _ => ?_
  split
  · exact safe_undone _
  · refine Safe.reading anyCodes (stable_anyCodes _ _) trivial (fun _ _ => trivial)
      fun read _ _ _ => ?_
    split
    · exact safe_undone _
    · refine Safe.acquiring anyCodes (stable_anyCodes _ _) trivial (fun _ _ => trivial)
        fun _ _ _ _ => ?_
      refine Safe.reading anyCodes (stable_anyCodes _ _) trivial (fun _ _ => trivial)
        fun again _ _ _ => ?_
      split
      · exact safe_undone _
      · refine Safe.acquiring anyCodes (stable_anyCodes _ _) trivial (fun _ _ => trivial)
          fun _ _ _ _ => ?_
        exact safe_consumeBindCode _ _ chatId
  · exact safe_undone _

end Programs

/-- Where no call inserts a code while one is live that came after its delete, no account ever has
two live codes. -/
theorem one_live_code {clock : Nat} {people : BindDrift} {requests : Nat -> BindRequest}
    {last : BindState}
    (reached : Reaches bindStore (fun _ _ => True) (bindOpening clock people requests) last)
    (straight : last.db.crossed = false) : last.db.AtMostOne := by
  have start : (BindDb.opening clock people).Uncrossed := fun _ _ => Nat.zero_le _
  have sound : Contract.Sound bindContract bindStore (fun _ _ => True)
      (bindOpening clock people requests) := by
    refine Contract.Sound.start start fun session => ?_
    cases request : requests session with
    | issue accountId code now => exact safe_request _ _ _
    | start code chatId => exact safe_handleStart _ _
  exact (sound.reaches bindContract_steady reached).1.good straight

private def learnerChannel : BindDrift where
  elapsed := 0
  swept := []
  teacherCodes := []
  accounts := [⟨.seeded 0, none, fun _ => false, fun _ => none⟩]
  switches := fun kind => kind = .learner
  saasOffer := []

/-- The learner presses the button twice, and sends the second code. -/
private def presses : Nat -> BindRequest
  | 0 => .issue (.seeded 0) "ABCDEFGH" 5
  | 1 => .issue (.seeded 0) "JKLMNPQR" 6
  | _ => .start "JKLMNPQR" "1000"

theorem one_live_code_in_turn : ∃ last : BindState, last.db.issued = 2 ∧ last.db.AtMostOne := by
  rcases exists_of_play bindStore (bindOpening 7 learnerChannel presses)
    (Event.steps 0 7 true ++ Event.steps 1 7 true ++ Event.steps 2 10 true)
    (fun db => db.issued = 2 ∧ db.crossed = false ∧
      (db.codes .learner).all fun row => row.consumedChatId = some "1000")
    (by decide +kernel) with ⟨last, reached, fact⟩
  exact ⟨last, fact.1, one_live_code reached fact.2.1⟩

/-- Both calls delete before either inserts. -/
theorem two_live_codes :
    ¬ ∀ (clock : Nat) (people : BindDrift) (requests : Nat -> BindRequest) (last : BindState),
      Reaches bindStore (fun _ _ => True) (bindOpening clock people requests) last ->
        last.db.AtMostOne := by
  intro always
  rcases exists_of_play bindStore (bindOpening 7 learnerChannel presses)
    (Event.steps 0 5 true ++ Event.steps 1 5 true ++ Event.steps 0 2 true ++
      Event.steps 1 2 true)
    (fun db => (db.live (.seeded 0)).length = 2) (by decide +kernel) with ⟨last, reached, two⟩
  have one := always _ _ _ last reached (.seeded 0)
  omega

end TelegramCodes

end LevelChannel
