import LevelChannel.ReadCommitted.Sessions
import LevelChannel.Tables.Rows
import LevelChannel.Schema.Identifiers

namespace LevelChannel

open ReadCommitted Tables

namespace Accounts

/-!
# Proven addresses

A verification link proves that whoever follows it reads the mailbox it was sent to.  The
row of the token names the account only, and a teacher may give a learner another address:
the stamp of the old address stays, and a link that was sent to it still sets one.
-/

/-! ## Rows -/

/-- A row of `accounts`.  `verifiedTo` stands for no column: the mailbox that the token which
set the stamp was sent to. -/
structure MailAccount where
  id : RowId
  email : String
  emailVerifiedAt : Option Nat
  verifiedTo : Option String
  deriving DecidableEq, Repr

/-- A row of `email_verifications`, by its token.  `sentTo` stands for no column. -/
structure VerificationToken where
  token : RowId
  accountId : RowId
  expiresAt : Nat
  consumedAt : Option Nat
  sentTo : String
  deriving DecidableEq, Repr

/-- The checks of `consumeSingleUseToken`. -/
def VerificationToken.live (row : VerificationToken) (now : Nat) : Bool :=
  row.consumedAt.isNone && decide (now < row.expiresAt)

structure Underway where
  session : Nat
  accountId : RowId
  email : String
  deriving DecidableEq, Repr

/-- An account that was marked as verified, with its address and the mailbox of the token. -/
structure VerifiedMark where
  accountId : RowId
  email : String
  sentTo : String
  deriving DecidableEq, Repr

structure AddressChange where
  accountId : RowId
  settled : Bool
  deriving DecidableEq, Repr

/-- A saved card that was charged: for whom, under which address it is stored, and whether
the account was verified when its session was looked up. -/
structure AccountCharge where
  accountId : RowId
  email : String
  verified : Bool
  deriving DecidableEq, Repr

/-- The tables and the clock.  The last five fields are in no table: who is at work on an
account, and what has been marked, changed, proven and charged. -/
structure MailDb where
  clock : Nat
  accounts : List MailAccount
  tokens : List VerificationToken
  learnerTeacherLinks : List (RowId × RowId)
  staff : List RowId
  cards : List (String × String)
  underway : List Underway
  marks : List VerifiedMark
  changes : List AddressChange
  proven : List (RowId × String)
  charges : List AccountCharge

inductive MailWrite where
  | account (row : MailAccount)
  | rename (accountId : RowId) (email : String)
  | verify (accountId : RowId) (sentTo : String) (now : Nat)
  | token (row : VerificationToken)
  | consume (row : VerificationToken) (now : Nat)
  | card (email token : String)
  | begin (work : Underway)
  | finish (session : Nat)
  | charge (charge : AccountCharge)

inductive MailLock where
  | account (id : RowId)
  | email (email : String)
  | token (token : RowId)
  | rename (teacherId learnerId : RowId)
  deriving DecidableEq

inductive MailDrift where
  | tick (passed : Nat)
  | links (links : List (RowId × RowId))
  | staff (accounts : List RowId)

namespace MailDb

def account? (db : MailDb) (id : RowId) : Option MailAccount :=
  get MailAccount.id db.accounts id

def token? (db : MailDb) (token : RowId) : Option VerificationToken :=
  get VerificationToken.token db.tokens token

/-- Nothing hangs on the address of the account: it is not verified, no link that was sent
to it is good, and nobody is at work on it. -/
def settled (db : MailDb) (accountId : RowId) : Bool :=
  ((db.account? accountId).all fun row => row.emailVerifiedAt.isNone) &&
    (db.tokens.all fun row => row.accountId ≠ accountId || !row.live db.clock) &&
    db.underway.all fun work => work.accountId ≠ accountId

def finish (db : MailDb) (session : Nat) : MailDb :=
  { db with underway := db.underway.filter fun work => work.session ≠ session }

def apply (db : MailDb) : MailWrite -> MailDb
  | .account row => { db with accounts := (Change.insert row).apply MailAccount.id db.accounts }
  | .rename accountId email =>
    match db.account? accountId with
    | none => db
    | some row =>
      { db with
        accounts := (Change.replace { row with email := email }).apply MailAccount.id db.accounts
        changes := ⟨accountId, db.settled accountId⟩ :: db.changes }
  | .verify accountId sentTo now =>
    match db.account? accountId with
    | none => db
    | some row =>
      -- `coalesce(email_verified_at, now())`
      if row.emailVerifiedAt.isSome then db
      else
        { db with
          accounts := (Change.replace { row with
            emailVerifiedAt := some now, verifiedTo := some sentTo }).apply MailAccount.id
              db.accounts
          marks := ⟨accountId, row.email, sentTo⟩ :: db.marks }
  | .token row => { db with tokens := (Change.insert row).apply VerificationToken.token db.tokens }
  | .consume row now =>
    { db with
      tokens := (Change.replace { row with consumedAt := some now }).apply
        VerificationToken.token db.tokens
      proven := (row.accountId, row.sentTo) :: db.proven }
  | .card email token => { db with cards := (email, token) :: db.cards }
  | .begin work => { db with underway := work :: db.underway }
  | .finish session => db.finish session
  | .charge charge => { db with charges := charge :: db.charges }

def drift (db : MailDb) : MailDrift -> MailDb
  | .tick passed => { db with clock := db.clock + passed }
  | .links links => { db with learnerTeacherLinks := links }
  | .staff accounts => { db with staff := accounts }

end MailDb

def mailStore : Store MailDb MailLock MailWrite MailDrift where
  apply := MailDb.apply
  drift := fun change db => db.drift change
  close := fun session db => db.finish session
  conflict := fun first second => first = second
  conflict_comm := fun _ _ => decide_eq_decide.mpr eq_comm

inductive MailReply where
  | sent
  | verifyFailed
  | verified
  | notFound
  | wrongArchetype
  | emailInUse
  | renamed
  | saved
  | sessionRequired
  | noSavedCard
  | charged
  | thrown
  deriving DecidableEq

abbrev MailProgram := Program MailDb MailLock MailWrite Unit Unit MailReply

abbrev MailState := State MailDb MailLock MailWrite Unit Unit MailReply

/-! ## Programs -/

def answer (session : Nat) (reply : MailReply) : MailProgram :=
  .call () (fun _ _ => [.finish session]) fun _ _ => .done reply

/-- `EMAIL_VERIFY_TTL_MS` -/
def emailVerifyTtlMs : Nat := 24 * 60 * 60 * 1000

/-- `createEmailVerification`; the link is then mailed to the address that was read. -/
def createEmailVerification (session : Nat) (accountId : RowId) (email : String) : MailProgram :=
  let thrown := answer session .thrown
  .reading () thrown fun _ own =>
    .writing () [] thrown
      (fun _ => [.token ⟨.minted session 1, accountId, own.clock + emailVerifyTtlMs, none, email⟩])
      fun _ => .commit thrown (answer session .sent)

def MailDb.taken (db : MailDb) (accountId : RowId) (email : String) : Bool :=
  db.accounts.any fun row => row.email = email && row.id ≠ accountId

/-- `POST /api/auth/register`, with the address as it was validated.  A known address gets a
mail of another kind. -/
def register (session : Nat) (email : String) : MailProgram :=
  let id := RowId.minted session 0
  let thrown := answer session .thrown
  .reading () thrown fun committed _ =>
    if committed.taken id email then answer session .sent
    else
      .guarded () [.email email] thrown
        (fun own => own.taken id email || (own.account? id).isSome)
        (fun _ => [.account ⟨id, email, none, none⟩, .begin ⟨session, id, email⟩])
        fun _ => .commit thrown (createEmailVerification session id email)

def MailDb.unverified (db : MailDb) (accountId : RowId) : Option MailAccount :=
  (db.account? accountId).filter fun row => row.emailVerifiedAt.isNone

/-- `POST /api/auth/resend-verify` of a session of the account. -/
def resendVerify (session : Nat) (accountId : RowId) : MailProgram :=
  .call ()
    (fun now _ => ((now.unverified accountId).map fun row =>
      .begin ⟨session, accountId, row.email⟩).toList)
    fun now _ =>
      match now.unverified accountId with
      | none => .done .sent
      | some row => createEmailVerification session accountId row.email

def markAccountVerified (session : Nat) (row : VerificationToken) : MailProgram :=
  let thrown := answer session .thrown
  .reading () thrown fun _ own =>
    .writing () [.account row.accountId] thrown
      (fun _ => [.verify row.accountId row.sentTo own.clock])
      fun _ => .commit thrown (answer session .verified)

def MailDb.liveToken (db : MailDb) (token : RowId) : Option VerificationToken :=
  (db.token? token).filter fun row => row.live db.clock

/-- `GET /api/auth/verify`.  The token is consumed under its lock. -/
def verify (session : Nat) (token : RowId) : MailProgram :=
  .acquiring () [.token token] (answer session .thrown) fun _ _ =>
    .call ()
      (fun now _ => ((now.liveToken token).map fun row =>
        .begin ⟨session, row.accountId, row.sentTo⟩).toList)
      fun now _ =>
        match now.liveToken token with
        | none => .rollback (answer session .verifyFailed)
        | some row =>
          .writing () [] (answer session .thrown) (fun _ => [.consume row now.clock])
            fun _ => .commit (answer session .thrown) (markAccountVerified session row)

/-- `renameLearnerByTeacher`, of the address.  The names of a profile are left out. -/
def renameLearnerByTeacher (session : Nat) (teacherId learnerId : RowId) (email : String) :
    MailProgram :=
  let thrown := answer session .thrown
  .acquiring () [.rename teacherId learnerId] thrown fun _ own =>
    match own.account? learnerId with
    | none => .rollback (answer session .notFound)
    | some row =>
      if (learnerId, teacherId) ∉ own.learnerTeacherLinks then
        .rollback (answer session .notFound)
      else if learnerId ∈ own.staff then .rollback (answer session .wrongArchetype)
      else if email = row.email then .commit thrown (answer session .renamed)
      else
        .reading () thrown fun _ own =>
          if own.taken learnerId email then .rollback (answer session .emailInUse)
          else
            .writing () [.account learnerId, .email email] thrown
              (fun own => if own.taken learnerId email then [] else [.rename learnerId email])
              fun own =>
                if own.taken learnerId email then .rollback (answer session .emailInUse)
                else .commit thrown (answer session .renamed)

/-- `maybePersistTokenFromWebhook`, for a payment under any address. -/
def saveCard (session : Nat) (email token : String) : MailProgram :=
  .writing () [] (answer session .thrown) (fun _ => [.card email token])
    fun _ => .commit (answer session .thrown) (answer session .saved)

/-- `POST /api/payments/charge-token` of a session of the account.  Its order is left out. -/
def chargeToken (session : Nat) (accountId : RowId) : MailProgram :=
  let thrown := answer session .thrown
  .reading () thrown fun committed _ =>
    match committed.account? accountId with
    | none => answer session .sessionRequired
    | some row =>
      .reading () thrown fun committed _ =>
        match committed.cards.lookup row.email with
        | none => answer session .noSavedCard
        | some _ =>
          .call () (fun _ _ => [.charge ⟨accountId, row.email, row.emailVerifiedAt.isSome⟩])
            fun _ _ => answer session .charged

inductive MailRequest where
  | register (email : String)
  | resendVerify (accountId : RowId)
  | verify (token : RowId)
  | renameLearnerByTeacher (teacherId learnerId : RowId) (email : String)
  | saveCard (email token : String)
  | chargeToken (accountId : RowId)
  deriving DecidableEq

def MailRequest.program (session : Nat) : MailRequest -> MailProgram
  | .register email => Accounts.register session email
  | .resendVerify accountId => Accounts.resendVerify session accountId
  | .verify token => Accounts.verify session token
  | .renameLearnerByTeacher teacherId learnerId email =>
    Accounts.renameLearnerByTeacher session teacherId learnerId email
  | .saveCard email token => Accounts.saveCard session email token
  | .chargeToken accountId => Accounts.chargeToken session accountId

def MailDb.empty : MailDb := ⟨0, [], [], [], [], [], [], [], [], [], []⟩

def mailOpening (requests : Nat -> MailRequest) : MailState :=
  State.start .empty fun session => (requests session).program session

/-- Whenever an address was changed, nothing hung on the old one. -/
def Settled (db : MailDb) : Prop :=
  ∀ change, change ∈ db.changes -> change.settled = true

/-- A verified account has the address that the token which verified it was sent to, and
none was ever marked by a token that was sent elsewhere. -/
structure AddressesProven (db : MailDb) : Prop where
  address : ∀ id row, db.account? id = some row -> row.emailVerifiedAt ≠ none ->
    row.verifiedTo = some row.email
  marks : ∀ mark, mark ∈ db.marks -> mark.sentTo = mark.email

/-- Every account whose saved card was charged has followed a link that was sent to the
address of the card. -/
def ChargesProven (db : MailDb) : Prop :=
  ∀ charge, charge ∈ db.charges -> (charge.accountId, charge.email) ∈ db.proven

namespace MailDb

variable {db before after : MailDb} {session : Nat} {accountId : RowId} {email : String}

/-- What the database says about addresses, if all changes of one were settled. -/
structure Proven (db : MailDb) : Prop where
  verified : ∀ id row, db.account? id = some row -> row.emailVerifiedAt ≠ none ->
    row.verifiedTo = some row.email ∧ (id, row.email) ∈ db.proven
  live : ∀ token, token ∈ db.tokens -> token.live db.clock = true ->
    ∀ row, db.account? token.accountId = some row -> token.sentTo = row.email
  underway : ∀ work, work ∈ db.underway ->
    ∀ row, db.account? work.accountId = some row -> work.email = row.email
  marks : ∀ mark, mark ∈ db.marks -> mark.sentTo = mark.email
  charges : ∀ charge, charge ∈ db.charges -> charge.verified = true ->
    (charge.accountId, charge.email) ∈ db.proven

/-- Tokens and notes are about accounts that exist. -/
structure Known (db : MailDb) : Prop where
  tokens : ∀ token, token ∈ db.tokens -> (db.account? token.accountId).isSome = true
  underway : ∀ work, work ∈ db.underway -> (db.account? work.accountId).isSome = true

structure Consistent (db : MailDb) : Prop where
  known : db.Known
  proven : Settled db -> db.Proven

/-- A session only adds to the records, keeps what the others are at work on, and registers
under its own id. -/
structure Respects (session : Nat) (before after : MailDb) : Prop where
  underway : ∀ work, work ∈ before.underway -> work.session ≠ session ->
    work ∈ after.underway
  changes : ∀ change, change ∈ before.changes -> change ∈ after.changes
  proven : ∀ entry, entry ∈ before.proven -> entry ∈ after.proven
  own : ∀ id, (after.account? id).isSome = true ->
    (before.account? id).isSome = true ∨ id = .minted session 0

theorem Respects.refl (session : Nat) (db : MailDb) : Respects session db db :=
  ⟨fun _ member _ => member, fun _ => id, fun _ => id, fun _ => Or.inl⟩

theorem Respects.settled (respects : Respects session before after) (all : Settled after) :
    Settled before :=
  fun change member => all change (respects.changes change member)

end MailDb

def mailContract : Contract MailDb MailLock where
  Good := MailDb.Consistent
  Guarantee session _ before after := MailDb.Respects session before after

/-! ## What the writes keep -/

namespace MailDb

variable {db : MailDb} {session : Nat} {accountId : RowId}

theorem Respects.of_same {after : MailDb} (accounts : after.accounts = db.accounts)
    (underway : ∀ work, work ∈ db.underway -> work.session ≠ session -> work ∈ after.underway)
    (changes : after.changes = db.changes)
    (proven : ∀ entry, entry ∈ db.proven -> entry ∈ after.proven) : Respects session db after :=
  ⟨underway, fun change member => changes ▸ member, proven, fun id found => by
    rw [account?, accounts] at found
    exact Or.inl found⟩

section Notes

theorem Consistent.begin (consistent : Consistent db) (work : Underway)
    (known : (db.account? work.accountId).isSome = true)
    (right : Settled db -> ∀ row, db.account? work.accountId = some row ->
      work.email = row.email) : Consistent (db.apply (.begin work)) where
  known := by
    refine ⟨consistent.known.tokens, fun other member => ?_⟩
    rcases List.mem_cons.mp member with rfl | old
    · exact known
    · exact consistent.known.underway other old
  proven settled := by
    have proven := consistent.proven settled
    refine ⟨proven.verified, proven.live, fun other member row found => ?_, proven.marks,
      proven.charges⟩
    rcases List.mem_cons.mp member with rfl | old
    · exact right settled row found
    · exact proven.underway other old row found

theorem respects_begin (work : Underway) : Respects session db (db.apply (.begin work)) :=
  Respects.of_same rfl (fun _ member _ => List.mem_cons_of_mem _ member) rfl fun _ => id

theorem Consistent.finish (consistent : Consistent db) (session : Nat) :
    Consistent (db.finish session) where
  known := ⟨consistent.known.tokens, fun work member =>
    consistent.known.underway work (List.mem_filter.mp member).1⟩
  proven settled := by
    have proven := consistent.proven settled
    exact ⟨proven.verified, proven.live, fun work member =>
      proven.underway work (List.mem_filter.mp member).1, proven.marks, proven.charges⟩

theorem respects_finish (session : Nat) : Respects session db (db.finish session) :=
  Respects.of_same rfl
    (fun _ member other => List.mem_filter.mpr ⟨member, decide_eq_true other⟩) rfl fun _ => id

end Notes

section Tokens

variable {row : VerificationToken}

theorem Consistent.token (consistent : Consistent db) (row : VerificationToken)
    (known : (db.account? row.accountId).isSome = true)
    (right : Settled db -> ∀ account, db.account? row.accountId = some account ->
      row.sentTo = account.email) : Consistent (db.apply (.token row)) where
  known := by
    refine ⟨fun other member => ?_, consistent.known.underway⟩
    rcases (mem_insert VerificationToken.token).mp member with old | rfl
    · exact consistent.known.tokens other old
    · exact known
  proven settled := by
    have proven := consistent.proven settled
    refine ⟨proven.verified, fun other member live account found => ?_, proven.underway,
      proven.marks, proven.charges⟩
    rcases (mem_insert VerificationToken.token).mp member with old | rfl
    · exact proven.live other old live account found
    · exact right settled account found

theorem Consistent.consume (consistent : Consistent db) (row : VerificationToken) (now : Nat)
    (known : (db.account? row.accountId).isSome = true) :
    Consistent (db.apply (.consume row now)) where
  known := by
    refine ⟨fun other member => ?_, consistent.known.underway⟩
    rcases mem_replace member with rfl | ⟨old, -⟩
    · exact known
    · exact consistent.known.tokens other old
  proven settled := by
    have proven := consistent.proven settled
    refine ⟨fun id account found verified => ?_, fun other member live account found => ?_,
      proven.underway, proven.marks, fun charge member verified => ?_⟩
    · rcases proven.verified id account found verified with ⟨address, followed⟩
      exact ⟨address, List.mem_cons_of_mem _ followed⟩
    · rcases mem_replace member with rfl | ⟨old, -⟩
      · cases live
      · exact proven.live other old live account found
    · exact List.mem_cons_of_mem _ (proven.charges charge member verified)

end Tokens

section Rows

variable {row : MailAccount}

theorem Consistent.account (consistent : Consistent db) (row : MailAccount)
    (unverified : row.emailVerifiedAt = none) : Consistent (db.apply (.account row)) := by
  have later : ∀ id, (db.apply (.account row)).account? id =
      (db.account? id).or (if row.id = id then some row else none) := fun _ => get_insert row
  have old : ∀ id, (db.account? id).isSome = true ->
      (db.apply (.account row)).account? id = db.account? id := by
    intro id found
    rcases Option.isSome_iff_exists.mp found with ⟨first, read⟩
    rw [later, read, Option.some_or]
  refine ⟨⟨fun token member => ?_, fun work member => ?_⟩, fun settled => ?_⟩
  · have known := consistent.known.tokens token member
    rw [old _ known]
    exact known
  · have known := consistent.known.underway work member
    rw [old _ known]
    exact known
  · have proven := consistent.proven settled
    refine ⟨fun id account found verified => ?_, fun token member live account found => ?_,
      fun work member account found => ?_, proven.marks, proven.charges⟩
    · rw [later, Option.or_eq_some_iff] at found
      rcases found with first | ⟨-, new⟩
      · exact proven.verified id account first verified
      · split at new
        · rw [← Option.some.inj new] at verified
          exact absurd unverified verified
        · cases new
    · rw [old _ (consistent.known.tokens token member)] at found
      exact proven.live token member live account found
    · rw [old _ (consistent.known.underway work member)] at found
      exact proven.underway work member account found

theorem account?_replaced (written : MailAccount) (read : db.account? row.id = some row)
    (same : written.id = row.id) (id : RowId) :
    get MailAccount.id ((Change.replace written).apply MailAccount.id db.accounts) id =
      if id = row.id then some written else db.account? id := by
  split
  · next self =>
    subst self
    rw [← same]
    exact get_replace_self written (same.symm ▸ read)
  · next other => exact get_replace_of_ne written (same.symm ▸ other)

theorem known_replaced {after : MailDb} {written : MailAccount} (consistent : Consistent db)
    (accounts : ∀ id, after.account? id = if id = row.id then some written else db.account? id)
    (tokens : after.tokens = db.tokens) (underway : after.underway = db.underway) :
    after.Known := by
  have found : ∀ id, (db.account? id).isSome = true -> (after.account? id).isSome = true := by
    intro id exists_
    rw [accounts]
    split
    · rfl
    · exact exists_
  exact ⟨fun token member => found _ (consistent.known.tokens token (tokens ▸ member)),
    fun work member => found _ (consistent.known.underway work (underway ▸ member))⟩

theorem Consistent.verify (consistent : Consistent db) {work : Underway} (now : Nat)
    (noted : work ∈ db.underway) (followed : (work.accountId, work.email) ∈ db.proven) :
    Consistent (db.apply (.verify work.accountId work.email now)) := by
  rw [apply]
  cases read : db.account? work.accountId with
  | none => exact consistent
  | some row =>
    simp only
    split
    · exact consistent
    · have keyed : row.id = work.accountId := key_of_get read
      let written : MailAccount :=
        { row with emailVerifiedAt := some now, verifiedTo := some work.email }
      have self : db.account? row.id = some row := keyed.symm ▸ read
      have reads := account?_replaced written self rfl
      refine ⟨known_replaced consistent reads rfl rfl, fun settled => ?_⟩
      have proven := consistent.proven settled
      have address : work.email = row.email := proven.underway work noted row read
      -- the address of every account is what it was
      have emails : ∀ id account,
          (if id = row.id then some written else db.account? id) = some account ->
            ∃ old, db.account? id = some old ∧ old.email = account.email := by
        intro id account found
        split at found
        · next same =>
          rw [← Option.some.inj found]
          exact ⟨row, same ▸ self, rfl⟩
        · exact ⟨account, found, rfl⟩
      refine ⟨fun id account found verified => ?_, fun token member live account found => ?_,
        fun other member account found => ?_, fun mark member => ?_, proven.charges⟩
      · have found := (reads id).symm.trans found
        split at found
        · next same =>
          rw [← Option.some.inj found, same, keyed]
          exact ⟨congrArg some address, address ▸ followed⟩
        · exact proven.verified id account found verified
      · rcases emails _ account ((reads _).symm.trans found) with ⟨old, readOld, same⟩
        exact (proven.live token member live old readOld).trans same
      · rcases emails _ account ((reads _).symm.trans found) with ⟨old, readOld, same⟩
        exact (proven.underway other member old readOld).trans same
      · rcases List.mem_cons.mp member with rfl | old
        · exact address
        · exact proven.marks mark old

theorem Consistent.rename (consistent : Consistent db) (accountId : RowId) (email : String) :
    Consistent (db.apply (.rename accountId email)) := by
  rw [apply]
  cases read : db.account? accountId with
  | none => exact consistent
  | some row =>
    simp only
    have keyed : row.id = accountId := key_of_get read
    have self : db.account? row.id = some row := keyed.symm ▸ read
    let written : MailAccount := { row with email := email }
    have reads := account?_replaced written self rfl
    refine ⟨known_replaced consistent reads rfl rfl, fun settled => ?_⟩
    have proven := consistent.proven fun change member =>
      settled change (List.mem_cons_of_mem _ member)
    have quiet : db.settled accountId = true := settled _ List.mem_cons_self
    simp only [MailDb.settled, Bool.and_eq_true, read, Option.all_some, List.all_eq_true,
      Bool.or_eq_true, decide_eq_true_eq, Bool.not_eq_true'] at quiet
    rcases quiet with ⟨⟨unverified, dead⟩, idle⟩
    refine ⟨fun id account found verified => ?_, fun token member live account found => ?_,
      fun work member account found => ?_, proven.marks, proven.charges⟩
    · have found := (reads id).symm.trans found
      split at found
      · rw [← Option.some.inj found] at verified
        exact absurd (Option.isNone_iff_eq_none.mp unverified) verified
      · exact proven.verified id account found verified
    · have found := (reads _).symm.trans found
      rw [keyed] at found
      split at found
      · next same =>
        have live : token.live db.clock = true := live
        rcases dead token member with other | stale
        · exact absurd same other
        · rw [stale] at live
          cases live
      · exact proven.live token member live account found
    · have found := (reads _).symm.trans found
      rw [keyed] at found
      split at found
      · next same => exact absurd same (idle work member)
      · exact proven.underway work member account found

theorem respects_replaced {after : MailDb} {written : MailAccount}
    (read : db.account? row.id = some row) (accounts : ∀ id, after.account? id =
      if id = row.id then some written else db.account? id)
    (underway : after.underway = db.underway)
    (changes : ∀ change, change ∈ db.changes -> change ∈ after.changes)
    (proven : after.proven = db.proven) : Respects session db after := by
  refine ⟨fun work member _ => underway ▸ member, changes, fun entry member => proven ▸ member,
    fun id found => Or.inl ?_⟩
  rw [accounts] at found
  split at found
  · next same => rw [same, read, Option.isSome_some]
  · exact found

theorem respects_verify (accountId : RowId) (sentTo : String) (now : Nat) :
    Respects session db (db.apply (.verify accountId sentTo now)) := by
  rw [apply]
  cases read : db.account? accountId with
  | none => exact Respects.refl session db
  | some row =>
    simp only
    split
    · exact Respects.refl session db
    · have self : db.account? row.id = some row := (key_of_get read).symm ▸ read
      have reads := account?_replaced
        { row with emailVerifiedAt := some now, verifiedTo := some sentTo } self rfl
      exact respects_replaced self reads rfl (fun _ => id) rfl

theorem respects_rename (accountId : RowId) (email : String) :
    Respects session db (db.apply (.rename accountId email)) := by
  rw [apply]
  cases read : db.account? accountId with
  | none => exact Respects.refl session db
  | some row =>
    simp only
    have self : db.account? row.id = some row := (key_of_get read).symm ▸ read
    have reads := account?_replaced { row with email := email } self rfl
    exact respects_replaced self reads rfl (fun _ => List.mem_cons_of_mem _) rfl

end Rows

theorem Consistent.charge (consistent : Consistent db) (charge : AccountCharge)
    (right : Settled db -> charge.verified = true -> (charge.accountId, charge.email) ∈ db.proven) :
    Consistent (db.apply (.charge charge)) where
  known := ⟨consistent.known.tokens, consistent.known.underway⟩
  proven settled := by
    have proven := consistent.proven settled
    refine ⟨proven.verified, proven.live, proven.underway, proven.marks,
      fun other member verified => ?_⟩
    rcases List.mem_cons.mp member with rfl | old
    · exact right settled verified
    · exact proven.charges other old verified

theorem Consistent.drift (consistent : Consistent db) (change : MailDrift) :
    Consistent (db.drift change) := by
  cases change with
  | tick passed =>
    refine ⟨⟨consistent.known.tokens, consistent.known.underway⟩, fun settled => ?_⟩
    have proven := consistent.proven settled
    refine ⟨proven.verified, fun token member live => ?_, proven.underway, proven.marks,
      proven.charges⟩
    refine proven.live token member ?_
    simp only [VerificationToken.live, Bool.and_eq_true, decide_eq_true_eq] at live ⊢
    have sooner : db.clock + passed < token.expiresAt := live.2
    exact ⟨live.1, by omega⟩
  | links links =>
    refine ⟨⟨consistent.known.tokens, consistent.known.underway⟩, fun settled => ?_⟩
    have proven := consistent.proven settled
    exact ⟨proven.verified, proven.live, proven.underway, proven.marks, proven.charges⟩
  | staff accounts =>
    refine ⟨⟨consistent.known.tokens, consistent.known.underway⟩, fun settled => ?_⟩
    have proven := consistent.proven settled
    exact ⟨proven.verified, proven.live, proven.underway, proven.marks, proven.charges⟩

end MailDb

theorem mailContract_steady : mailContract.Steady mailStore where
  drift change _ consistent := consistent.drift change
  close session _ _ consistent := ⟨consistent.finish session, MailDb.respects_finish session⟩

/-! ## What the programs do -/

section Programs

open Contract

variable {permits : Unit -> MailDb -> Prop} {session : Nat} {held : List MailLock}
  {db : MailDb}

private abbrev whatever (_ : MailDb) : Prop := True

private theorem stable_whatever (session : Nat) (held : List MailLock) :
    Stable mailContract mailStore session held whatever :=
  Stable.const session held True

theorem respects_of_disturbs {before after : MailDb}
    (disturbed : mailContract.Disturbs mailStore session held before after) :
    ∃ other, other ≠ session ∧ before.Respects other after := by
  rcases disturbed with ⟨-, -, ⟨change, rfl⟩ | ⟨other, theirs, different, -, respects⟩⟩
  · refine ⟨session + 1, Nat.succ_ne_self session, ?_⟩
    cases change with
    | tick passed => exact ⟨fun _ member _ => member, fun _ => id, fun _ => id, fun _ => Or.inl⟩
    | links links => exact ⟨fun _ member _ => member, fun _ => id, fun _ => id, fun _ => Or.inl⟩
    | staff rows => exact ⟨fun _ member _ => member, fun _ => id, fun _ => id, fun _ => Or.inl⟩
  · exact ⟨other, different, respects⟩

theorem stable_noted (work : Underway) (mine : work.session = session) (held : List MailLock) :
    Stable mailContract mailStore session held fun db => work ∈ db.underway := by
  intro before after noted disturbed
  rcases respects_of_disturbs disturbed with ⟨other, different, respects⟩
  exact respects.underway work noted (mine ▸ different.symm)

theorem stable_followed (entry : RowId × String) (held : List MailLock) :
    Stable mailContract mailStore session held fun db => entry ∈ db.proven := by
  intro before after followed disturbed
  rcases respects_of_disturbs disturbed with ⟨other, -, respects⟩
  exact respects.proven entry followed

theorem stable_unregistered (held : List MailLock) : Stable mailContract mailStore session held
      fun db => (db.account? (.minted session 0)).isSome = false := by
  intro before after absent disturbed
  rcases respects_of_disturbs disturbed with ⟨other, different, respects⟩
  by_contra found
  rcases respects.own _ ((Bool.not_eq_false _).mp found) with old | theirs
  · rw [absent] at old
    cases old
  · injection theirs with same
    exact different same.symm

theorem stable_charge (session : Nat) (entry : RowId × String) (verified : Bool)
    (held : List MailLock) : Stable mailContract mailStore session held
      fun db => Settled db -> verified = true -> entry ∈ db.proven := by
  intro before after right disturbed settled wanted
  rcases respects_of_disturbs disturbed with ⟨other, -, respects⟩
  exact respects.proven entry (right (respects.settled settled) wanted)

theorem safe_answer (reply : MailReply) (now : MailDb) (_ : now.Consistent) :
    mailContract.Safe mailStore permits session (answer session reply) [] [] now :=
  Safe.call whatever (stable_whatever _ _) trivial
    (fun _ _ good _ _ => ⟨good.finish session, MailDb.respects_finish session⟩)
    fun _ _ _ _ _ => trivial

theorem safe_refuse (reply : MailReply) (held : List MailLock) (pending : List MailWrite)
    (now : MailDb) :
    mailContract.Safe mailStore permits session (.rollback (answer session reply)) held pending
      now :=
  Safe.rollback whatever (stable_whatever _ _) trivial fun later _ good =>
    safe_answer reply later good

theorem safe_createEmailVerification {accountId : RowId} {email : String}
    (noted : ⟨session, accountId, email⟩ ∈ db.underway) :
    mailContract.Safe mailStore permits session
      (createEmailVerification session accountId email) [] [] db := by
  have stable := fun held => stable_noted ⟨session, accountId, email⟩ rfl held
  refine Safe.reading _ (stable _) noted (safe_answer _) fun begun noted _ _ => ?_
  refine Safe.writing _ (stable _) noted (safe_answer _) fun now noted _ _ => ?_
  refine Safe.last _ (stable _) noted (fun later noted good => ?_) (safe_answer _) (safe_answer _)
  refine ⟨good.token _ (good.known.underway _ noted) fun settled row found => ?_, ?_⟩
  · exact (good.proven settled).underway _ noted row found
  · exact MailDb.Respects.of_same rfl (fun _ member _ => member) rfl fun _ => id

theorem safe_register (email : String) :
    mailContract.Safe mailStore permits session (register session email) [] [] db := by
  refine Safe.reading whatever (stable_whatever _ _) trivial (safe_answer _)
    fun now _ good _ => ?_
  split
  · exact safe_answer _ now good
  · refine Safe.guarded whatever (stable_whatever _ _) trivial (safe_answer _)
      fun now _ _ _ free => ?_
    simp only [Store.applyAll_nil, Bool.or_eq_false_iff] at free
    let row : MailAccount := ⟨.minted session 0, email, none, none⟩
    have kept : ∀ later : MailDb, (later.account? (.minted session 0)).isSome = false ->
        later.Consistent ->
        ((later.apply (.account row)).apply (.begin ⟨session, row.id, email⟩)).Consistent ∧
          later.Respects session
            ((later.apply (.account row)).apply (.begin ⟨session, row.id, email⟩)) := by
      intro later absent good
      have here : (later.apply (.account row)).account? row.id = some row :=
        get_insert_self row (Option.isNone_iff_eq_none.mp (Option.isSome_eq_false_iff.mp absent))
      have begun := (good.account row rfl).begin ⟨session, row.id, email⟩
        (by rw [here, Option.isSome_some]) fun _ other found => by
          rw [here] at found
          rw [← Option.some.inj found]
      refine ⟨begun, fun work member _ => List.mem_cons_of_mem _ member, fun _ => id,
        fun _ => id, fun id found => ?_⟩
      have read : (later.apply (.account row)).account? id =
          (later.account? id).or (if row.id = id then some row else none) := get_insert row
      have found : ((later.apply (.account row)).account? id).isSome = true := found
      rw [read, Option.isSome_or, Bool.or_eq_true] at found
      rcases found with old | new
      · exact Or.inl old
      · split at new
        · next same => exact Or.inr same.symm
        · cases new
    refine Safe.commit _ (stable_unregistered _) free.2 kept
      (fun later _ _ => safe_createEmailVerification List.mem_cons_self)
      (fun later _ good => safe_answer _ later good)
      fun later absent good => safe_answer _ _ (kept later absent good).1

theorem safe_resendVerify (accountId : RowId) :
    mailContract.Safe mailStore permits session (resendVerify session accountId) [] [] db := by
  refine Safe.call whatever (stable_whatever _ _) trivial (fun now _ good _ _ => ?_)
    fun now _ good _ _ => ?_
  · cases read : now.unverified accountId with
    | none => exact ⟨good, MailDb.Respects.refl session now⟩
    | some row =>
      rcases Option.filter_eq_some_iff.mp read with ⟨found, -⟩
      refine ⟨good.begin ⟨session, accountId, row.email⟩ (by rw [found, Option.isSome_some])
        fun _ other same => ?_, MailDb.respects_begin _⟩
      have equal := found.symm.trans same
      rw [← Option.some.inj equal]
  · cases read : now.unverified accountId with
    | none => trivial
    | some row => exact safe_createEmailVerification List.mem_cons_self

theorem safe_markAccountVerified {row : VerificationToken}
    (noted : ⟨session, row.accountId, row.sentTo⟩ ∈ db.underway)
    (followed : (row.accountId, row.sentTo) ∈ db.proven) :
    mailContract.Safe mailStore permits session (markAccountVerified session row) [] [] db := by
  have stable := fun held =>
    (stable_noted ⟨session, row.accountId, row.sentTo⟩ rfl held).and
      (stable_followed (row.accountId, row.sentTo) held)
  refine Safe.reading _ (stable _) ⟨noted, followed⟩ (safe_answer _) fun begun both _ _ => ?_
  refine Safe.writing _ (stable _) both (safe_answer _) fun now both _ _ => ?_
  refine Safe.last _ (stable _) both (fun later both good => ?_) (safe_answer _) (safe_answer _)
  exact ⟨good.verify begun.clock both.1 both.2, MailDb.respects_verify _ _ _⟩

theorem safe_verify (token : RowId) :
    mailContract.Safe mailStore permits session (verify session token) [] [] db := by
  refine Safe.acquiring whatever (stable_whatever _ _) trivial (safe_answer _)
    fun before _ _ _ => ?_
  refine Safe.call whatever (stable_whatever _ _) trivial (fun now _ good _ _ => ?_)
    fun now _ good _ _ => ?_
  · cases read : now.liveToken token with
    | none => exact ⟨good, MailDb.Respects.refl session now⟩
    | some row =>
      rcases Option.filter_eq_some_iff.mp read with ⟨found, live⟩
      have listed : row ∈ now.tokens := mem_of_get found
      have begun := good.begin ⟨session, row.accountId, row.sentTo⟩
        (good.known.tokens row listed) fun settled account same =>
          (good.proven settled).live row listed live account same
      exact ⟨begun, MailDb.respects_begin _⟩
  · cases read : now.liveToken token with
    | none => exact safe_refuse _ _ _ _
    | some row =>
      have stable := fun held =>
        stable_noted ⟨session, row.accountId, row.sentTo⟩ rfl held
      refine Safe.writing _ (stable _) List.mem_cons_self (safe_answer _) fun later noted _ _ => ?_
      have kept : ∀ last : MailDb, ⟨session, row.accountId, row.sentTo⟩ ∈ last.underway ->
          last.Consistent -> (last.apply (.consume row now.clock)).Consistent ∧
            last.Respects session (last.apply (.consume row now.clock)) :=
        fun last noted good => ⟨good.consume row now.clock (good.known.underway _ noted),
          MailDb.Respects.of_same rfl (fun _ member _ => member) rfl
            fun _ => List.mem_cons_of_mem _⟩
      exact Safe.commit _ (stable _) noted kept
        (fun last noted _ => safe_markAccountVerified noted List.mem_cons_self)
        (fun last _ good => safe_answer _ last good)
        fun last noted good => safe_answer _ _ (kept last noted good).1

theorem safe_renameLearnerByTeacher (teacherId learnerId : RowId) (email : String) :
    mailContract.Safe mailStore permits session
      (renameLearnerByTeacher session teacherId learnerId email) [] [] db := by
  refine Safe.acquiring whatever (stable_whatever _ _) trivial (safe_answer _)
    fun now _ _ _ => ?_
  split
  · exact safe_refuse _ _ _ now
  · split
    · exact safe_refuse _ _ _ now
    · split
      · exact safe_refuse _ _ _ now
      · split
        · exact Safe.last whatever (stable_whatever _ _) trivial
            (fun later _ good => ⟨good, MailDb.Respects.refl session later⟩) (safe_answer _)
            (safe_answer _)
        · refine Safe.reading whatever (stable_whatever _ _) trivial (safe_answer _)
            fun now _ _ _ => ?_
          split
          · exact safe_refuse _ _ _ now
          · refine Safe.writing whatever (stable_whatever _ _) trivial (safe_answer _)
              fun now _ _ _ => ?_
            by_cases taken : now.taken learnerId email = true
            · simp only [Store.applyAll_nil, taken, if_true]
              exact safe_refuse _ _ _ now
            · simp only [Store.applyAll_nil, taken, Bool.false_eq_true, if_false]
              exact Safe.last whatever (stable_whatever _ _) trivial
                (fun later _ good => ⟨good.rename learnerId email,
                  MailDb.respects_rename learnerId email⟩) (safe_answer _) (safe_answer _)

theorem safe_saveCard (email token : String) :
    mailContract.Safe mailStore permits session (saveCard session email token) [] [] db := by
  refine Safe.writing whatever (stable_whatever _ _) trivial (safe_answer _) fun now _ _ _ => ?_
  refine Safe.last whatever (stable_whatever _ _) trivial (fun later _ good => ?_)
    (safe_answer _) (safe_answer _)
  refine ⟨⟨⟨good.known.tokens, good.known.underway⟩, fun settled => ?_⟩,
    MailDb.Respects.of_same rfl (fun _ member _ => member) rfl fun _ => id⟩
  have proven := good.proven settled
  exact ⟨proven.verified, proven.live, proven.underway, proven.marks, proven.charges⟩

theorem safe_chargeToken (accountId : RowId) :
    mailContract.Safe mailStore permits session (chargeToken session accountId) [] [] db := by
  refine Safe.reading whatever (stable_whatever _ _) trivial (safe_answer _)
    fun now _ good _ => ?_
  split
  · exact safe_answer _ now good
  · next row found =>
    have stable := fun held => stable_charge session (accountId, row.email)
      row.emailVerifiedAt.isSome held
    have right : Settled now -> row.emailVerifiedAt.isSome = true ->
        (accountId, row.email) ∈ now.proven := by
      intro settled verified
      rcases Option.isSome_iff_exists.mp verified with ⟨time, stamped⟩
      refine ((good.proven settled).verified accountId row found ?_).2
      rw [stamped]
      exact Option.some_ne_none time
    refine Safe.reading _ (stable _) right (safe_answer _) fun later right good _ => ?_
    split
    · exact safe_answer _ later good
    · refine Safe.call _ (stable _) right (fun last right good _ _ => ?_)
        fun last right good _ _ => safe_answer _ _ (good.charge _ right)
      exact ⟨good.charge _ right,
        MailDb.Respects.of_same rfl (fun _ member _ => member) rfl fun _ => id⟩

theorem MailRequest.safe (request : MailRequest) :
    mailContract.Safe mailStore permits session (request.program session) [] [] db := by
  cases request with
  | register email => exact safe_register email
  | resendVerify accountId => exact safe_resendVerify accountId
  | verify token => exact safe_verify token
  | renameLearnerByTeacher teacherId learnerId email =>
    exact safe_renameLearnerByTeacher teacherId learnerId email
  | saveCard email token => exact safe_saveCard email token
  | chargeToken accountId => exact safe_chargeToken accountId

end Programs

/-! ## Runs -/

theorem MailDb.empty_consistent : MailDb.empty.Consistent := by
  refine ⟨⟨?_, ?_⟩, fun _ => ⟨?_, ?_, ?_, ?_, ?_⟩⟩
  · intro token member
    cases member
  · intro work member
    cases member
  · intro id row found
    cases found
  · intro token member
    cases member
  · intro work member
    cases member
  · intro mark member
    cases member
  · intro charge member
    cases member

theorem consistent_of_reaches {requests : Nat -> MailRequest} {last : MailState}
    (reached : Reaches mailStore (fun _ _ => True) (mailOpening requests) last) :
    last.db.Consistent := by
  have sound : Contract.Sound mailContract mailStore (fun _ _ => True) (mailOpening requests) :=
    Contract.Sound.start MailDb.empty_consistent fun session => (requests session).safe
  exact (sound.reaches mailContract_steady reached).1.good

/-- Where addresses are changed only when nothing hangs on the old one, the address of a
verified account is the one that was proven. -/
theorem addresses_proven {requests : Nat -> MailRequest} {last : MailState}
    (reached : Reaches mailStore (fun _ _ => True) (mailOpening requests) last)
    (settled : Settled last.db) : AddressesProven last.db := by
  have proven := (consistent_of_reaches reached).proven settled
  exact ⟨fun id row found verified => (proven.verified id row found verified).1, proven.marks⟩

private def corrected (link : RowId) : Nat -> MailRequest
  | 0 => .register "ann@exmaple.com"
  | 1 => .renameLearnerByTeacher (.seeded 9) (.minted 0 0) "ann@example.com"
  | 2 => .resendVerify (.minted 0 0)
  | _ => .verify link

private def linked : Event MailDrift Unit := .drift (.links [(.minted 0 0, .seeded 9)])

/-- The first link has expired before the address is corrected, and another one is sent. -/
private def secondLink : List (Event MailDrift Unit) :=
  Event.steps 0 7 () ++ [linked, .drift (.tick emailVerifyTtlMs)] ++ Event.steps 1 5 () ++
    Event.steps 2 5 () ++ Event.steps 3 8 ()

private def firstLink : List (Event MailDrift Unit) :=
  Event.steps 0 7 () ++ [linked] ++ Event.steps 1 5 () ++ Event.steps 3 8 ()

instance (db : MailDb) : Decidable (Settled db) := by
  unfold Settled
  infer_instance

theorem addresses_proven_corrected : ∃ last : MailState,
      last.db.marks = [⟨.minted 0 0, "ann@example.com", "ann@example.com"⟩] ∧
        AddressesProven last.db := by
  rcases exists_of_play mailStore (mailOpening (corrected (.minted 2 1))) secondLink
    (fun db => db.marks = [⟨.minted 0 0, "ann@example.com", "ann@example.com"⟩] ∧ Settled db)
    (by decide +kernel) with ⟨last, reached, marked, settled⟩
  exact ⟨last, marked, addresses_proven reached settled⟩

/-- A link that was sent to the old address marks the new one as verified. -/
theorem address_not_proven : ¬ ∀ (requests : Nat -> MailRequest) (last : MailState),
      Reaches mailStore (fun _ _ => True) (mailOpening requests) last ->
        AddressesProven last.db := by
  intro always
  rcases exists_of_play mailStore (mailOpening (corrected (.minted 0 1))) firstLink
    (fun db => db.marks = [⟨.minted 0 0, "ann@example.com", "ann@exmaple.com"⟩])
    (by decide +kernel) with ⟨last, reached, marked⟩
  have same := (always _ last reached).marks _ (by rw [marked]; exact List.mem_cons_self)
  exact absurd same (by decide)

/-- Where only verified accounts ask for a charge as well, a saved card is charged for a
proven address only. -/
theorem charges_proven {requests : Nat -> MailRequest} {last : MailState}
    (reached : Reaches mailStore (fun _ _ => True) (mailOpening requests) last)
    (settled : Settled last.db)
    (verified : ∀ charge, charge ∈ last.db.charges -> charge.verified = true) :
    ChargesProven last.db := by
  intro charge member
  have proven := (consistent_of_reaches reached).proven settled
  exact proven.charges charge member (verified charge member)

private def paidBefore : Nat -> MailRequest
  | 0 => .saveCard "ann@example.com" "tk_1"
  | 1 => .register "ann@example.com"
  | 2 => .verify (.minted 1 1)
  | _ => .chargeToken (.minted 1 0)

theorem charges_proven_verified : ∃ last : MailState,
      last.db.charges = [⟨.minted 1 0, "ann@example.com", true⟩] ∧ ChargesProven last.db := by
  rcases exists_of_play mailStore (mailOpening paidBefore)
    (Event.steps 0 3 () ++ Event.steps 1 7 () ++ Event.steps 2 8 () ++ Event.steps 3 4 ())
    (fun db => db.charges = [⟨.minted 1 0, "ann@example.com", true⟩] ∧ Settled db)
    (by decide +kernel) with ⟨last, reached, charged, settled⟩
  refine ⟨last, charged, charges_proven reached settled fun charge member => ?_⟩
  rw [charged, List.mem_singleton] at member
  rw [member]

/-- An account that has only registered charges the card of whoever pays under its address. -/
theorem charge_not_proven : ¬ ∀ (requests : Nat -> MailRequest) (last : MailState),
      Reaches mailStore (fun _ _ => True) (mailOpening requests) last ->
        ChargesProven last.db := by
  intro always
  rcases exists_of_play mailStore (mailOpening paidBefore)
    (Event.steps 0 3 () ++ Event.steps 1 7 () ++ Event.steps 3 4 ())
    (fun db => db.charges = [⟨.minted 1 0, "ann@example.com", false⟩] ∧ db.proven = [])
    (by decide +kernel) with ⟨last, reached, charged, nothing⟩
  have proven := always _ last reached _ (by rw [charged]; exact List.mem_cons_self)
  rw [nothing] at proven
  cases proven

end Accounts

end LevelChannel
