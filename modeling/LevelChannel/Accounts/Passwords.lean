import LevelChannel.ReadCommitted.Sessions
import LevelChannel.Tables.Rows
import LevelChannel.Schema.Identifiers

namespace LevelChannel

open ReadCommitted Tables

namespace Passwords

/-!
# Changing a password

A reset link is good for one use, and the sessions of the account are revoked once the
password is changed.  Both are statements of their own: the other links that were mailed
before stay good, and the old sessions are until their revocation has committed.
-/

/-! ## Rows -/

/-- A row of `password_resets`, by its token.  `issued` stands for no column: the moment of
its insert. -/
structure PasswordReset where
  token : RowId
  accountId : RowId
  expiresAt : Nat
  consumedAt : Option Nat
  issued : Nat
  deriving DecidableEq, Repr

/-- The checks of `consumeSingleUseToken`. -/
def PasswordReset.live (row : PasswordReset) (now : Nat) : Bool :=
  row.consumedAt.isNone && decide (now < row.expiresAt)

/-- A row of `account_sessions`, by its cookie.  `created` is the moment of its insert. -/
structure AccountSession where
  cookie : RowId
  accountId : RowId
  expiresAt : Nat
  revokedAt : Option Nat
  created : Nat
  deriving DecidableEq, Repr

structure PasswordAccount where
  id : RowId
  email : String
  passwordHash : String
  disabled : Bool
  deriving DecidableEq, Repr

structure Confirming where
  session : Nat
  accountId : RowId
  issued : Nat
  deriving DecidableEq, Repr

/-- A change of the password: the moment the token was issued, and that of the change.  It
is alone if no other token of the account was good or being confirmed. -/
structure PasswordChange where
  session : Nat
  accountId : RowId
  issued : Nat
  moment : Nat
  alone : Bool
  deriving DecidableEq, Repr

/-- A session that was accepted: the moment it was created, and that of its lookup.  The
lookup is settled if no revocation was outstanding. -/
structure AcceptedSession where
  accountId : RowId
  created : Nat
  moment : Nat
  settled : Bool
  deriving DecidableEq, Repr

/-- The tables and the clock.  The last five fields are in no table: a count of what has
happened, the confirmations under way, the changes whose revocation is outstanding, all
changes, and all sessions that were accepted. -/
structure PasswordDb where
  clock : Nat
  accounts : List PasswordAccount
  resets : List PasswordReset
  sessions : List AccountSession
  moment : Nat
  confirming : List Confirming
  unrevoked : List PasswordChange
  changes : List PasswordChange
  accepted : List AcceptedSession

inductive PasswordWrite where
  | reset (row : PasswordReset)
  | consume (row : PasswordReset) (now : Nat)
  | session (row : AccountSession)
  | revoke (cookie : RowId) (now : Nat)
  | revoked (session : Nat)
  | password (session : Nat) (accountId : RowId) (hash : String) (issued : Nat)
  | confirming (work : Confirming)
  | answered (session : Nat)
  | accepted (accountId : RowId) (created : Nat)

inductive PasswordLock where
  | account (id : RowId)
  | reset (token : RowId)
  | session (cookie : RowId)
  deriving DecidableEq

namespace PasswordDb

def account? (db : PasswordDb) (id : RowId) : Option PasswordAccount :=
  get PasswordAccount.id db.accounts id

def reset? (db : PasswordDb) (token : RowId) : Option PasswordReset :=
  get PasswordReset.token db.resets token

def session? (db : PasswordDb) (cookie : RowId) : Option AccountSession :=
  get AccountSession.cookie db.sessions cookie

def alone (db : PasswordDb) (session : Nat) (accountId : RowId) : Bool :=
  (db.resets.all fun row => row.accountId ≠ accountId || !row.live db.clock) &&
    db.confirming.all fun work => work.accountId ≠ accountId || work.session = session

def answered (db : PasswordDb) (session : Nat) : PasswordDb :=
  { db with confirming := db.confirming.filter fun work => work.session ≠ session }

def apply (db : PasswordDb) : PasswordWrite -> PasswordDb
  | .reset row =>
    { db with
      resets := (Change.insert { row with issued := db.moment }).apply PasswordReset.token db.resets
      moment := db.moment + 1 }
  | .consume row now =>
    { db with
      resets := (Change.replace { row with consumedAt := some now }).apply PasswordReset.token
        db.resets }
  | .session row =>
    { db with
      sessions := (Change.insert { row with created := db.moment }).apply AccountSession.cookie
        db.sessions
      moment := db.moment + 1 }
  | .revoke cookie now =>
    -- `coalesce(revoked_at, now())`
    { db with
      sessions := db.sessions.map fun row =>
        if row.cookie = cookie then { row with revokedAt := row.revokedAt.or (some now) } else row }
  | .revoked session =>
    { db with unrevoked := db.unrevoked.filter fun change => change.session ≠ session }
  | .password session accountId hash issued =>
    let change : PasswordChange :=
      ⟨session, accountId, issued, db.moment, db.alone session accountId⟩
    { db with
      accounts := db.accounts.map fun row =>
        if row.id = accountId then { row with passwordHash := hash } else row
      moment := db.moment + 1
      confirming := db.confirming.filter fun work => work.session ≠ session
      unrevoked := change :: db.unrevoked
      changes := change :: db.changes }
  | .confirming work => { db with confirming := work :: db.confirming }
  | .answered session => db.answered session
  | .accepted accountId created =>
    { db with
      moment := db.moment + 1
      accepted := ⟨accountId, created, db.moment,
        db.unrevoked.all fun change => change.accountId ≠ accountId⟩ :: db.accepted }

end PasswordDb

inductive PasswordDrift where
  | tick (passed : Nat)
  | accounts (rows : List PasswordAccount)

def PasswordDb.drift (db : PasswordDb) : PasswordDrift -> PasswordDb
  | .tick passed => { db with clock := db.clock + passed }
  | .accounts rows => { db with accounts := rows }

def passwordStore : Store PasswordDb PasswordLock PasswordWrite PasswordDrift where
  apply := PasswordDb.apply
  drift := fun change db => db.drift change
  close := fun session db => db.answered session
  conflict := fun first second => first = second
  conflict_comm := fun _ _ => decide_eq_decide.mpr eq_comm

inductive PasswordReply where
  | ok
  | invalidLink
  | loggedIn
  | invalidCredentials
  | loggedOut
  | accepted
  | unauthenticated
  | thrown
  deriving DecidableEq

abbrev PasswordProgram :=
  Program PasswordDb PasswordLock PasswordWrite Unit Unit PasswordReply

abbrev PasswordState := State PasswordDb PasswordLock PasswordWrite Unit Unit PasswordReply

/-! ## Programs -/

def answer (session : Nat) (reply : PasswordReply) : PasswordProgram :=
  .call () (fun _ _ => [.answered session]) fun _ _ => .done reply

/-- `PASSWORD_RESET_TTL_MS` -/
def passwordResetTtlMs : Nat := 60 * 60 * 1000

/-- `SESSION_TTL_MS` -/
def sessionTtlMs : Nat := 7 * 24 * 60 * 60 * 1000

def getAccountByEmail (db : PasswordDb) (email : String) : Option PasswordAccount :=
  db.accounts.find? fun row => row.email = email

/-- `POST /api/auth/reset-request`, with the address as it was validated.  The answer does
not depend on the account. -/
def resetRequest (session : Nat) (email : String) : PasswordProgram :=
  .reading () (answer session .thrown) fun committed _ =>
    match (getAccountByEmail committed email).filter fun row => !row.disabled with
    | none => answer session .ok
    | some row =>
      .reading () (answer session .thrown) fun _ own =>
        .writing () [] (answer session .thrown)
          (fun _ => [.reset ⟨.minted session 0, row.id, own.clock + passwordResetTtlMs, none, 0⟩])
          fun _ => .commit (answer session .thrown) (answer session .ok)

def createSession (session : Nat) (accountId : RowId) (reply : PasswordReply) : PasswordProgram :=
  .reading () (answer session .thrown) fun _ own =>
    .writing () [] (answer session .thrown)
      (fun _ => [.session ⟨.minted session 1, accountId, own.clock + sessionTtlMs, none, 0⟩])
      fun _ => .commit (answer session .thrown) (answer session reply)

def liveSessions (db : PasswordDb) (accountId : RowId) : List RowId :=
  (db.sessions.filter fun row => row.accountId = accountId && row.revokedAt.isNone).map
    AccountSession.cookie

/-- `revokeAllSessionsForAccount`.  The note that it is outstanding goes with it. -/
def revokeAllSessionsForAccount (session : Nat) (accountId : RowId) (next : PasswordProgram) :
    PasswordProgram :=
  .reading () (answer session .thrown) fun _ begun =>
    .writing () [] (answer session .thrown)
      (fun own => (liveSessions own accountId).map (fun cookie => .revoke cookie begun.clock) ++
        [.revoked session])
      fun _ => .commit (answer session .thrown) next

def setAccountPassword (session : Nat) (accountId : RowId) (hash : String) (issued : Nat)
    (next : PasswordProgram) : PasswordProgram :=
  .writing () [.account accountId] (answer session .thrown)
    (fun _ => [.password session accountId hash issued])
    fun _ => .commit (answer session .thrown) next

def PasswordDb.liveReset (db : PasswordDb) (token : RowId) : Option PasswordReset :=
  (db.reset? token).filter fun row => row.live db.clock

/-- `POST /api/auth/reset-confirm`, with the hash of the new password. -/
def resetConfirm (session : Nat) (token : RowId) (hash : String) : PasswordProgram :=
  .acquiring () [.reset token] (answer session .thrown) fun _ _ =>
    .call ()
      (fun now _ => ((now.liveReset token).map fun row =>
        .confirming ⟨session, row.accountId, row.issued⟩).toList)
      fun now _ =>
        match now.liveReset token with
        | none => .rollback (answer session .invalidLink)
        | some row =>
          .writing () [] (answer session .thrown) (fun _ => [.consume row now.clock])
            fun _ => .commit (answer session .thrown)
              (setAccountPassword session row.accountId hash row.issued
                (revokeAllSessionsForAccount session row.accountId
                  (createSession session row.accountId .ok)))

/-- `POST /api/auth/login`, once the password was found to match `hash`. -/
def login (session : Nat) (email hash : String) : PasswordProgram :=
  .reading () (answer session .thrown) fun committed _ =>
    match (getAccountByEmail committed email).filter fun row =>
        !row.disabled && row.passwordHash = hash with
    | none => answer session .invalidCredentials
    | some row => createSession session row.id .loggedIn

/-- The session `lookupSession` accepts. -/
def PasswordDb.found (db : PasswordDb) (cookie : RowId) : Option AccountSession :=
  (db.session? cookie).filter fun row =>
    row.revokedAt.isNone && decide (db.clock < row.expiresAt) &&
      (db.account? row.accountId).any fun account => !account.disabled

def lookupSession (cookie : RowId) : PasswordProgram :=
  .call ()
    (fun now _ => ((now.found cookie).map fun row => .accepted row.accountId row.created).toList)
    fun now _ => .done (if (now.found cookie).isSome then .accepted else .unauthenticated)

/-- `revokeSession`, for `POST /api/auth/logout` -/
def revokeSession (session : Nat) (cookie : RowId) : PasswordProgram :=
  .reading () (answer session .thrown) fun _ begun =>
    .writing () [.session cookie] (answer session .thrown) (fun _ => [.revoke cookie begun.clock])
      fun _ => .commit (answer session .thrown) (answer session .loggedOut)

inductive PasswordRequest where
  | resetRequest (email : String)
  | resetConfirm (token : RowId) (hash : String)
  | login (email hash : String)
  | lookupSession (cookie : RowId)
  | revokeSession (cookie : RowId)
  deriving DecidableEq

def PasswordRequest.program (session : Nat) : PasswordRequest -> PasswordProgram
  | .resetRequest email => Passwords.resetRequest session email
  | .resetConfirm token hash => Passwords.resetConfirm session token hash
  | .login email hash => Passwords.login session email hash
  | .lookupSession cookie => Passwords.lookupSession cookie
  | .revokeSession cookie => Passwords.revokeSession session cookie

def PasswordDb.opening (accounts : List PasswordAccount) : PasswordDb :=
  ⟨0, accounts, [], [], 0, [], [], [], []⟩

def passwordOpening (accounts : List PasswordAccount) (requests : Nat -> PasswordRequest) :
    PasswordState :=
  State.start (.opening accounts) fun session => (requests session).program session

/-- Whenever a password was changed no other link of the account was good or being
confirmed, and no session was looked up between a change and its revocation. -/
structure Undisturbed (db : PasswordDb) : Prop where
  changes : ∀ change, change ∈ db.changes -> change.alone = true
  accepted : ∀ use, use ∈ db.accepted -> use.settled = true

/-- After a change no token changes the password that was issued before it, and no session
is accepted that was created before it. -/
structure DoorsClosed (db : PasswordDb) : Prop where
  tokens : ∀ first, first ∈ db.changes -> ∀ second, second ∈ db.changes ->
    first.accountId = second.accountId -> first.moment < second.moment ->
      first.moment < second.issued
  sessions : ∀ change, change ∈ db.changes -> ∀ use, use ∈ db.accepted ->
    change.accountId = use.accountId -> change.moment < use.moment ->
      change.moment < use.created

namespace PasswordDb

variable {db before after : PasswordDb} {session : Nat}

def Alone (db : PasswordDb) : Prop :=
  ∀ change, change ∈ db.changes -> change.alone = true

/-- What is good or under way is younger than the changes of its account. -/
structure Young (db : PasswordDb) : Prop where
  live : ∀ row, row ∈ db.resets -> row.live db.clock = true ->
    ∀ change, change ∈ db.changes -> change.accountId = row.accountId ->
      change.moment < row.issued
  confirming : ∀ work, work ∈ db.confirming ->
    ∀ change, change ∈ db.changes -> change.accountId = work.accountId ->
      change.moment < work.issued
  changes : ∀ first, first ∈ db.changes -> ∀ second, second ∈ db.changes ->
    first.accountId = second.accountId -> first.moment < second.moment ->
      first.moment < second.issued

structure Consistent (db : PasswordDb) : Prop where
  past : ∀ change, change ∈ db.changes -> change.moment < db.moment
  used : ∀ use, use ∈ db.accepted -> use.moment < db.moment
  young : Alone db -> Young db
  /-- A session is younger than a change unless that waits for its revocation. -/
  sessions : ∀ row, row ∈ db.sessions -> row.revokedAt = none ->
    ∀ change, change ∈ db.changes -> change.accountId = row.accountId ->
      change.moment < row.created ∨ change ∈ db.unrevoked
  accepted : ∀ use, use ∈ db.accepted -> use.settled = true ->
    ∀ change, change ∈ db.changes -> change.accountId = use.accountId ->
      change.moment < use.moment -> change.moment < use.created

/-- The others keep their confirmations, changes are the session's own, and a session that
is not revoked was there before or is new. -/
structure Respects (session : Nat) (before after : PasswordDb) : Prop where
  confirming : ∀ work, work ∈ before.confirming -> work.session ≠ session ->
    work ∈ after.confirming
  changes : ∀ change, change ∈ after.changes ->
    change ∈ before.changes ∨ change.session = session
  sessions : ∀ row, row ∈ after.sessions -> row.revokedAt = none ->
    row ∈ before.sessions ∨ before.moment ≤ row.created
  moment : before.moment ≤ after.moment

theorem Respects.refl (session : Nat) (db : PasswordDb) : Respects session db db :=
  ⟨fun _ member _ => member, fun _ => Or.inl, fun _ member _ => Or.inl member, Nat.le_refl _⟩

end PasswordDb

def passwordContract : Contract PasswordDb PasswordLock where
  Good := PasswordDb.Consistent
  Guarantee session _ before after := PasswordDb.Respects session before after

/-! ## What the writes keep -/

namespace PasswordDb

variable {db : PasswordDb} {session : Nat}

theorem Consistent.reset (consistent : Consistent db) (row : PasswordReset) :
    Consistent (db.apply (.reset row)) where
  past change member := Nat.lt_succ_of_lt (consistent.past change member)
  used use member := Nat.lt_succ_of_lt (consistent.used use member)
  young alone := by
    have young := consistent.young alone
    refine ⟨fun other member live change made same => ?_, young.confirming, young.changes⟩
    rcases (mem_insert PasswordReset.token).mp member with old | rfl
    · exact young.live other old live change made same
    · exact consistent.past change made
  sessions := consistent.sessions
  accepted := consistent.accepted

theorem Consistent.consume (consistent : Consistent db) (row : PasswordReset) (now : Nat) :
    Consistent (db.apply (.consume row now)) where
  past := consistent.past
  used := consistent.used
  young alone := by
    have young := consistent.young alone
    refine ⟨fun other member live => ?_, young.confirming, young.changes⟩
    rcases mem_replace member with rfl | ⟨old, -⟩
    · cases live
    · exact young.live other old live
  sessions := consistent.sessions
  accepted := consistent.accepted

theorem Consistent.createSession (consistent : Consistent db) (row : AccountSession) :
    Consistent (db.apply (.session row)) where
  past change member := Nat.lt_succ_of_lt (consistent.past change member)
  used use member := Nat.lt_succ_of_lt (consistent.used use member)
  young alone := by
    have young := consistent.young alone
    exact ⟨young.live, young.confirming, young.changes⟩
  sessions other member unrevoked change made same := by
    rcases (mem_insert AccountSession.cookie).mp member with old | rfl
    · exact consistent.sessions other old unrevoked change made same
    · exact Or.inl (consistent.past change made)
  accepted := consistent.accepted

theorem Consistent.confirm (consistent : Consistent db) {row : PasswordReset} {session : Nat}
    (listed : row ∈ db.resets) (live : row.live db.clock = true) :
    Consistent (db.apply (.confirming ⟨session, row.accountId, row.issued⟩)) where
  past := consistent.past
  used := consistent.used
  young alone := by
    have young := consistent.young alone
    refine ⟨young.live, fun work member => ?_, young.changes⟩
    rcases List.mem_cons.mp member with rfl | old
    · exact young.live row listed live
    · exact young.confirming work old
  sessions := consistent.sessions
  accepted := consistent.accepted

theorem Consistent.answered (consistent : Consistent db) (session : Nat) :
    Consistent (db.answered session) where
  past := consistent.past
  used := consistent.used
  young alone := by
    have young := consistent.young alone
    exact ⟨young.live, fun work member => young.confirming work (List.mem_filter.mp member).1,
      young.changes⟩
  sessions := consistent.sessions
  accepted := consistent.accepted

theorem Consistent.accept (consistent : Consistent db) {row : AccountSession}
    (listed : row ∈ db.sessions) (unrevoked : row.revokedAt = none) :
    Consistent (db.apply (.accepted row.accountId row.created)) where
  past change member := Nat.lt_succ_of_lt (consistent.past change member)
  used use member := by
    rcases List.mem_cons.mp member with rfl | old
    · exact Nat.lt_succ_self _
    · exact Nat.lt_succ_of_lt (consistent.used use old)
  young alone := by
    have young := consistent.young alone
    exact ⟨young.live, young.confirming, young.changes⟩
  sessions := consistent.sessions
  accepted use member settled change made same earlier := by
    rcases List.mem_cons.mp member with rfl | old
    · rcases consistent.sessions row listed unrevoked change made same with younger | waits
      · exact younger
      · have other := List.all_eq_true.mp settled change waits
        exact absurd same (of_decide_eq_true other)
    · exact consistent.accepted use old settled change made same earlier

theorem Consistent.password (consistent : Consistent db) {work : Confirming} (hash : String)
    (noted : work ∈ db.confirming) :
    Consistent (db.apply (.password work.session work.accountId hash work.issued)) where
  past change member := by
    rcases List.mem_cons.mp member with rfl | old
    · exact Nat.lt_succ_self _
    · exact Nat.lt_succ_of_lt (consistent.past change old)
  used use member := Nat.lt_succ_of_lt (consistent.used use member)
  young alone := by
    have young := consistent.young fun change member => alone change (List.mem_cons_of_mem _ member)
    have by_itself : db.alone work.session work.accountId = true := alone _ List.mem_cons_self
    simp only [PasswordDb.alone, Bool.and_eq_true, List.all_eq_true, Bool.or_eq_true,
      decide_eq_true_eq, Bool.not_eq_true'] at by_itself
    rcases by_itself with ⟨dead, idle⟩
    refine ⟨fun row member live change made same => ?_, fun other member change made same => ?_,
      fun first one second two same earlier => ?_⟩
    · rcases List.mem_cons.mp made with rfl | old
      · rcases dead row member with different | stale
        · exact absurd same.symm different
        · have live : row.live db.clock = true := live
          rw [stale] at live
          cases live
      · exact young.live row member live change old same
    · rcases List.mem_filter.mp member with ⟨listed, different⟩
      rcases List.mem_cons.mp made with rfl | old
      · rcases idle other listed with elsewhere | mine
        · exact absurd same.symm elsewhere
        · exact absurd mine (of_decide_eq_true different)
      · exact young.confirming other listed change old same
    · rcases List.mem_cons.mp one with rfl | oldFirst
      · rcases List.mem_cons.mp two with rfl | oldSecond
        · exact absurd earlier (Nat.lt_irrefl _)
        · exact absurd earlier (Nat.lt_asymm (consistent.past second oldSecond))
      · rcases List.mem_cons.mp two with rfl | oldSecond
        · exact young.confirming work noted first oldFirst same
        · exact young.changes first oldFirst second oldSecond same earlier
  sessions row member unrevoked change made same := by
    rcases List.mem_cons.mp made with rfl | old
    · exact Or.inr List.mem_cons_self
    · rcases consistent.sessions row member unrevoked change old same with younger | waits
      · exact Or.inl younger
      · exact Or.inr (List.mem_cons_of_mem _ waits)
  accepted use member settled change made same earlier := by
    rcases List.mem_cons.mp made with rfl | old
    · exact absurd earlier (Nat.lt_asymm (consistent.used use member))
    · exact consistent.accepted use member settled change old same earlier

/-- What revocations leave: the sessions that are not among them. -/
structure Revoked (cookies : List RowId) (before after : PasswordDb) : Prop where
  sessions : ∀ row, row ∈ after.sessions -> row.revokedAt = none ->
    row ∈ before.sessions ∧ row.cookie ∉ cookies
  rest : { after with sessions := before.sessions } = before

theorem revoked_one (cookie : RowId) (now : Nat) :
    Revoked [cookie] db (db.apply (.revoke cookie now)) where
  sessions row member unrevoked := by
    rcases List.mem_map.mp member with ⟨old, listed, rfl⟩
    split at unrevoked
    · next same =>
      rw [Option.or_eq_none_iff] at unrevoked
      cases unrevoked.2
    · next different =>
      rw [if_neg different]
      exact ⟨listed, fun same => different (List.mem_singleton.mp same)⟩
  rest := rfl

theorem revoked_all (cookies : List RowId) (now : Nat) :
    Revoked cookies db (passwordStore.applyAll db
      (cookies.map fun cookie => .revoke cookie now)) := by
  induction cookies generalizing db with
  | nil => exact ⟨fun row member _ => ⟨member, List.not_mem_nil⟩, rfl⟩
  | cons cookie rest extend =>
    have one := @revoked_one db cookie now
    have more := @extend (db.apply (.revoke cookie now))
    refine ⟨fun row member unrevoked => ?_, ?_⟩
    · rcases more.sessions row member unrevoked with ⟨listed, outside⟩
      rcases one.sessions row listed unrevoked with ⟨first, different⟩
      refine ⟨first, fun among => ?_⟩
      rcases List.mem_cons.mp among with same | later
      · exact different (List.mem_singleton.mpr same)
      · exact outside later
    · have same := more.rest
      exact congrArg (fun later : PasswordDb => { later with sessions := db.sessions }) same

variable {cookies : List RowId} {after : PasswordDb}

theorem Revoked.same (revoked : Revoked cookies db after) :
    after = { db with sessions := after.sessions } := by
  have same := congrArg (fun first : PasswordDb => { first with sessions := after.sessions })
    revoked.rest
  exact same

theorem Consistent.revoke (consistent : Consistent db) (revoked : Revoked cookies db after) :
    Consistent after := by
  rw [revoked.same]
  exact ⟨consistent.past, consistent.used, fun alone => ⟨(consistent.young alone).live,
    (consistent.young alone).confirming, (consistent.young alone).changes⟩,
    fun row member unrevoked =>
      consistent.sessions row (revoked.sessions row member unrevoked).1 unrevoked,
    consistent.accepted⟩

theorem Revoked.respects (revoked : Revoked cookies db after) : Respects session db after := by
  refine ⟨fun work member _ => ?_, fun change member => Or.inl ?_, fun row member unrevoked =>
    Or.inl (revoked.sessions row member unrevoked).1, ?_⟩
  · rw [revoked.same]
    exact member
  · rw [revoked.same] at member
    exact member
  · exact Nat.le_of_eq (congrArg PasswordDb.moment revoked.same).symm

theorem Consistent.revoked (consistent : Consistent db)
    (younger : ∀ row, row ∈ db.sessions -> row.revokedAt = none ->
      ∀ change, change ∈ db.changes -> change.session = session ->
        change.accountId = row.accountId -> change.moment < row.created) :
    Consistent (db.apply (.revoked session)) where
  past := consistent.past
  used := consistent.used
  young alone := by
    have young := consistent.young alone
    exact ⟨young.live, young.confirming, young.changes⟩
  sessions row member unrevoked change made same := by
    by_cases own : change.session = session
    · exact Or.inl (younger row member unrevoked change made own same)
    · rcases consistent.sessions row member unrevoked change made same with first | waits
      · exact Or.inl first
      · exact Or.inr (List.mem_filter.mpr ⟨waits, decide_eq_true own⟩)
  accepted := consistent.accepted

theorem Consistent.drift (consistent : Consistent db) (change : PasswordDrift) :
    Consistent (db.drift change) := by
  cases change with
  | tick passed =>
    refine ⟨consistent.past, consistent.used, fun alone => ?_, consistent.sessions,
      consistent.accepted⟩
    have young := consistent.young alone
    refine ⟨fun row member live => ?_, young.confirming, young.changes⟩
    refine young.live row member ?_
    simp only [PasswordReset.live, Bool.and_eq_true, decide_eq_true_eq] at live ⊢
    have sooner : db.clock + passed < row.expiresAt := live.2
    exact ⟨live.1, by omega⟩
  | accounts rows =>
    refine ⟨consistent.past, consistent.used, fun alone => ?_, consistent.sessions,
      consistent.accepted⟩
    have young := consistent.young alone
    exact ⟨young.live, young.confirming, young.changes⟩

theorem respects_answered (session : Nat) (db : PasswordDb) :
    Respects session db (db.answered session) :=
  ⟨fun _ member other => List.mem_filter.mpr ⟨member, decide_eq_true other⟩, fun _ => Or.inl,
    fun _ member _ => Or.inl member, Nat.le_refl _⟩

end PasswordDb

theorem passwordContract_steady : passwordContract.Steady passwordStore where
  drift change _ consistent := consistent.drift change
  close session _ db consistent :=
    ⟨consistent.answered session, PasswordDb.respects_answered session db⟩

/-! ## What the programs do -/

section Programs

open Contract

variable {permits : Unit -> PasswordDb -> Prop} {session : Nat} {held : List PasswordLock}
  {db : PasswordDb} {accountId : RowId}

private abbrev always (_ : PasswordDb) : Prop := True

private theorem stable_always (session : Nat) (held : List PasswordLock) :
    Stable passwordContract passwordStore session held always :=
  Stable.const session held True

theorem respects_of_disturbed {before after : PasswordDb}
    (disturbed : passwordContract.Disturbs passwordStore session held before after) :
    ∃ other, other ≠ session ∧ before.Respects other after := by
  rcases disturbed with ⟨-, -, ⟨change, rfl⟩ | ⟨other, theirs, different, -, respects⟩⟩
  · refine ⟨session + 1, Nat.succ_ne_self session, ?_⟩
    cases change with
    | tick passed =>
      exact ⟨fun _ member _ => member, fun _ => Or.inl, fun _ member _ => Or.inl member,
        Nat.le_refl _⟩
    | accounts rows =>
      exact ⟨fun _ member _ => member, fun _ => Or.inl, fun _ member _ => Or.inl member,
        Nat.le_refl _⟩
  · exact ⟨other, different, respects⟩

def Unchanged (session : Nat) (db : PasswordDb) : Prop :=
  ∀ change, change ∈ db.changes -> change.session ≠ session

/-- The confirmation is noted, and its change is still to come. -/
structure Confirms (work : Confirming) (db : PasswordDb) : Prop where
  unchanged : Unchanged work.session db
  noted : work ∈ db.confirming

/-- The session's change is in the past. -/
structure Changed (session : Nat) (accountId : RowId) (moment : Nat) (db : PasswordDb) : Prop where
  own : ∀ change, change ∈ db.changes -> change.session = session ->
    change.accountId = accountId ∧ change.moment ≤ moment
  past : moment < db.moment

structure Revoking (session : Nat) (accountId : RowId) (moment : Nat) (cookies : List RowId)
    (db : PasswordDb) : Prop extends Changed session accountId moment db where
  found : ∀ row, row ∈ db.sessions -> row.revokedAt = none -> row.accountId = accountId ->
    row.cookie ∈ cookies ∨ moment < row.created

theorem stable_unchanged (session : Nat) (held : List PasswordLock) :
    Stable passwordContract passwordStore session held (Unchanged session) := by
  intro before after unchanged disturbed change member
  rcases respects_of_disturbed disturbed with ⟨other, different, respects⟩
  rcases respects.changes change member with old | theirs
  · exact unchanged change old
  · rw [theirs]
    exact different

theorem stable_confirms (work : Confirming) (held : List PasswordLock) :
    Stable passwordContract passwordStore work.session held (Confirms work) := by
  intro before after confirms disturbed
  refine ⟨stable_unchanged _ held before after confirms.unchanged disturbed, ?_⟩
  rcases respects_of_disturbed disturbed with ⟨other, different, respects⟩
  exact respects.confirming work confirms.noted different.symm

theorem stable_changed (session : Nat) (accountId : RowId) (moment : Nat)
    (held : List PasswordLock) :
    Stable passwordContract passwordStore session held (Changed session accountId moment) := by
  intro before after changed disturbed
  rcases respects_of_disturbed disturbed with ⟨other, different, respects⟩
  refine ⟨fun change member mine => ?_, Nat.lt_of_lt_of_le changed.past respects.moment⟩
  rcases respects.changes change member with old | theirs
  · exact changed.own change old mine
  · exact absurd (theirs.symm.trans mine) different

theorem stable_revoking (session : Nat) (accountId : RowId) (moment : Nat)
    (cookies : List RowId) (held : List PasswordLock) :
    Stable passwordContract passwordStore session held
      (Revoking session accountId moment cookies) := by
  intro before after revoking disturbed
  have changed := stable_changed session accountId moment held before after
    revoking.toChanged disturbed
  refine ⟨changed, fun row member unrevoked same => ?_⟩
  rcases respects_of_disturbed disturbed with ⟨other, -, respects⟩
  rcases respects.sessions row member unrevoked with old | new
  · exact revoking.found row old unrevoked same
  · exact Or.inr (Nat.lt_of_lt_of_le revoking.past new)

theorem safe_answer (reply : PasswordReply) (now : PasswordDb) (_ : now.Consistent) :
    passwordContract.Safe passwordStore permits session (answer session reply) [] [] now :=
  Safe.call always (stable_always _ _) trivial
    (fun later _ good _ _ => ⟨good.answered session, PasswordDb.respects_answered session later⟩)
    fun _ _ _ _ _ => trivial

theorem safe_resetRequest (email : String) :
    passwordContract.Safe passwordStore permits session (resetRequest session email) [] [] db := by
  refine Safe.reading always (stable_always _ _) trivial (safe_answer _) fun now _ good _ => ?_
  split
  · exact safe_answer _ now good
  · refine Safe.reading always (stable_always _ _) trivial (safe_answer _) fun now _ _ _ => ?_
    refine Safe.writing always (stable_always _ _) trivial (safe_answer _) fun now _ _ _ => ?_
    refine Safe.last always (stable_always _ _) trivial (fun later _ good => ?_) (safe_answer _)
      (safe_answer _)
    exact ⟨good.reset _, fun _ member _ => member, fun _ => Or.inl,
      fun _ member _ => Or.inl member, Nat.le_succ _⟩

theorem safe_createSession (reply : PasswordReply) :
    passwordContract.Safe passwordStore permits session (createSession session accountId reply)
      [] [] db := by
  refine Safe.reading always (stable_always _ _) trivial (safe_answer _) fun begun _ _ _ => ?_
  refine Safe.writing always (stable_always _ _) trivial (safe_answer _) fun now _ _ _ => ?_
  refine Safe.last always (stable_always _ _) trivial (fun later _ good => ?_) (safe_answer _)
    (safe_answer _)
  refine ⟨good.createSession _, fun _ member _ => member, fun _ => Or.inl,
    fun row member _ => ?_, Nat.le_succ _⟩
  rcases (mem_insert AccountSession.cookie).mp member with old | rfl
  · exact Or.inl old
  · exact Or.inr (Nat.le_refl _)

theorem safe_login (email hash : String) :
    passwordContract.Safe passwordStore permits session (login session email hash) [] [] db := by
  refine Safe.reading always (stable_always _ _) trivial (safe_answer _) fun now _ good _ => ?_
  split
  · exact safe_answer _ now good
  · exact safe_createSession _

theorem safe_lookupSession (cookie : RowId) :
    passwordContract.Safe passwordStore permits session (lookupSession cookie) [] [] db := by
  refine Safe.call always (stable_always _ _) trivial (fun now _ good _ _ => ?_)
    fun _ _ _ _ _ => trivial
  cases read : now.found cookie with
  | none => exact ⟨good, PasswordDb.Respects.refl session now⟩
  | some row =>
    rcases Option.filter_eq_some_iff.mp read with ⟨found, accepted⟩
    simp only [Bool.and_eq_true] at accepted
    exact ⟨good.accept (mem_of_get found) (Option.isNone_iff_eq_none.mp accepted.1.1),
      fun _ member _ => member, fun _ => Or.inl, fun _ member _ => Or.inl member, Nat.le_succ _⟩

theorem safe_revokeSession (cookie : RowId) :
    passwordContract.Safe passwordStore permits session (revokeSession session cookie)
      [] [] db := by
  refine Safe.reading always (stable_always _ _) trivial (safe_answer _) fun begun _ _ _ => ?_
  refine Safe.writing always (stable_always _ _) trivial (safe_answer _) fun now _ _ _ => ?_
  refine Safe.last always (stable_always _ _) trivial (fun later _ good => ?_) (safe_answer _)
    (safe_answer _)
  have revoked := @PasswordDb.revoked_one later cookie begun.clock
  exact ⟨good.revoke revoked, revoked.respects⟩

theorem safe_revokeAllSessionsForAccount {moment : Nat} {next : PasswordProgram}
    (changed : Changed session accountId moment db) (went : ∀ now : PasswordDb, now.Consistent ->
      passwordContract.Safe passwordStore permits session next [] [] now) :
    passwordContract.Safe passwordStore permits session
      (revokeAllSessionsForAccount session accountId next) [] [] db := by
  have stable := fun held => stable_changed session accountId moment held
  refine Safe.reading _ (stable _) changed (safe_answer _) fun begun changed _ _ => ?_
  refine Safe.writing _ (stable _) changed (safe_answer _) fun now changed _ _ => ?_
  have found : Revoking session accountId moment (liveSessions now accountId) now := by
    refine ⟨changed, fun row member unrevoked same => Or.inl ?_⟩
    refine List.mem_map.mpr ⟨row, List.mem_filter.mpr ⟨member, ?_⟩, rfl⟩
    rw [Bool.and_eq_true, decide_eq_true_eq]
    exact ⟨same, Option.isNone_iff_eq_none.mpr unrevoked⟩
  refine Safe.last _ (stable_revoking session accountId moment _ _) found
    (fun later revoking good => ?_) went (safe_answer _)
  rw [List.nil_append, Store.applyAll_append]
  have revoked := @PasswordDb.revoked_all later (liveSessions now accountId) begun.clock
  refine ⟨(good.revoke revoked).revoked fun row member unrevoked change made mine same => ?_, ?_⟩
  · rcases revoked.sessions row member unrevoked with ⟨listed, outside⟩
    rw [revoked.same] at made
    rcases revoking.own change made mine with ⟨account, earlier⟩
    rcases revoking.found row listed unrevoked (same.symm.trans account) with among | younger
    · exact absurd among outside
    · exact Nat.lt_of_le_of_lt earlier younger
  · have respects : PasswordDb.Respects session later _ := revoked.respects
    exact ⟨respects.confirming, respects.changes, respects.sessions, respects.moment⟩

theorem safe_setAccountPassword (work : Confirming) {hash : String} {next : PasswordProgram}
    (confirms : Confirms work db) (went : ∀ now : PasswordDb, now.Consistent -> ∀ moment,
      Changed work.session work.accountId moment now ->
        passwordContract.Safe passwordStore permits work.session next [] [] now) :
    passwordContract.Safe passwordStore permits work.session
      (setAccountPassword work.session work.accountId hash work.issued next) [] [] db := by
  refine Safe.writing _ (stable_confirms work _) confirms (safe_answer _)
    fun now confirms _ _ => ?_
  have kept : ∀ later : PasswordDb, Confirms work later -> later.Consistent ->
      (later.apply (.password work.session work.accountId hash work.issued)).Consistent ∧
        later.Respects work.session
          (later.apply (.password work.session work.accountId hash work.issued)) := by
    intro later confirms good
    refine ⟨good.password hash confirms.noted, fun other member different => ?_,
      fun change member => ?_, fun _ member _ => Or.inl member, Nat.le_succ _⟩
    · exact List.mem_filter.mpr ⟨member, decide_eq_true different⟩
    · rcases List.mem_cons.mp member with rfl | old
      · exact Or.inr rfl
      · exact Or.inl old
  refine Safe.commit _ (stable_confirms work _) confirms kept (fun later confirms good => ?_)
    (fun later _ good => safe_answer _ later good)
    fun later confirms good => safe_answer _ _ (kept later confirms good).1
  refine went _ (kept later confirms good).1 later.moment ⟨fun change member mine => ?_, ?_⟩
  · rcases List.mem_cons.mp member with rfl | old
    · exact ⟨rfl, Nat.le_refl _⟩
    · exact absurd mine (confirms.unchanged change old)
  · exact Nat.lt_succ_self _

theorem safe_resetConfirm (token : RowId) (hash : String) (unchanged : Unchanged session db) :
    passwordContract.Safe passwordStore permits session (resetConfirm session token hash)
      [] [] db := by
  refine Safe.acquiring _ (stable_unchanged session _) unchanged (safe_answer _)
    fun before unchanged _ _ => ?_
  refine Safe.call _ (stable_unchanged session _) unchanged (fun now _ good _ _ => ?_)
    fun now unchanged good _ _ => ?_
  · cases read : now.liveReset token with
    | none => exact ⟨good, PasswordDb.Respects.refl session now⟩
    | some row =>
      rcases Option.filter_eq_some_iff.mp read with ⟨found, live⟩
      exact ⟨good.confirm (mem_of_get found) live, fun _ member _ => List.mem_cons_of_mem _ member,
        fun _ => Or.inl, fun _ member _ => Or.inl member, Nat.le_refl _⟩
  · cases read : now.liveReset token with
    | none =>
      exact Safe.rollback always (stable_always _ _) trivial fun later _ good =>
        safe_answer _ later good
    | some row =>
      let work : Confirming := ⟨session, row.accountId, row.issued⟩
      refine Safe.writing _ (stable_confirms work _) ⟨unchanged, List.mem_cons_self⟩
        (safe_answer _) fun later confirms _ _ => ?_
      have kept : ∀ last : PasswordDb, Confirms work last -> last.Consistent ->
          (last.apply (.consume row now.clock)).Consistent ∧
            last.Respects session (last.apply (.consume row now.clock)) :=
        fun last _ good => ⟨good.consume row now.clock, fun _ member _ => member,
          fun _ => Or.inl, fun _ member _ => Or.inl member, Nat.le_refl _⟩
      refine Safe.commit _ (stable_confirms work _) confirms kept (fun last confirms good => ?_)
        (fun last _ good => safe_answer _ last good)
        fun last confirms good => safe_answer _ _ (kept last confirms good).1
      refine safe_setAccountPassword work ⟨confirms.unchanged, confirms.noted⟩
        fun now _ moment changed => safe_revokeAllSessionsForAccount changed
          fun _ _ => safe_createSession _

theorem PasswordRequest.safe (request : PasswordRequest) (unchanged : Unchanged session db) :
    passwordContract.Safe passwordStore permits session (request.program session) [] [] db := by
  cases request with
  | resetRequest email => exact safe_resetRequest email
  | resetConfirm token hash => exact safe_resetConfirm token hash unchanged
  | login email hash => exact safe_login email hash
  | lookupSession cookie => exact safe_lookupSession cookie
  | revokeSession cookie => exact safe_revokeSession cookie

end Programs

theorem PasswordDb.opening_consistent (accounts : List PasswordAccount) :
    (PasswordDb.opening accounts).Consistent := by
  refine ⟨?_, ?_, fun _ => ⟨?_, ?_, ?_⟩, ?_, ?_⟩
  · intro change member
    cases member
  · intro use member
    cases member
  · intro row member
    cases member
  · intro work member
    cases member
  · intro first member
    cases member
  · intro row member
    cases member
  · intro use member
    cases member

/-- Where a password is changed while no other link of the account is good or being
confirmed, and no session is looked up before the revocation has committed, every door that
is older than the change is closed. -/
theorem doors_closed {accounts : List PasswordAccount} {requests : Nat -> PasswordRequest}
    {last : PasswordState}
    (reached : Reaches passwordStore (fun _ _ => True) (passwordOpening accounts requests) last)
    (undisturbed : Undisturbed last.db) : DoorsClosed last.db := by
  have sound : Contract.Sound passwordContract passwordStore (fun _ _ => True)
      (passwordOpening accounts requests) :=
    Contract.Sound.start (PasswordDb.opening_consistent accounts) fun session =>
      (requests session).safe fun _ member => by cases member
  have consistent := (sound.reaches passwordContract_steady reached).1.good
  exact ⟨(consistent.young undisturbed.changes).changes, fun change made use accepted same =>
    consistent.accepted use accepted (undisturbed.accepted use accepted) change made same⟩

instance (db : PasswordDb) : Decidable (Undisturbed db) :=
  decidable_of_iff ((∀ change, change ∈ db.changes -> change.alone = true) ∧
      ∀ use, use ∈ db.accepted -> use.settled = true)
    ⟨fun both => ⟨both.1, both.2⟩, fun undisturbed => ⟨undisturbed.changes, undisturbed.accepted⟩⟩

private def forgetful : PasswordAccount := ⟨.seeded 0, "ann@example.com", "old", false⟩

/-- A password is changed, and changed once more with a link that was asked for later. -/
private def resets : Nat -> PasswordRequest
  | 0 => .login "ann@example.com" "old"
  | 1 => .resetRequest "ann@example.com"
  | 2 => .resetConfirm (.minted 1 0) "new"
  | 3 => .lookupSession (.minted 0 1)
  | 4 => .resetRequest "ann@example.com"
  | 5 => .resetConfirm (.minted 4 0) "newer"
  | _ => .lookupSession (.minted 5 1)

/-- What happened to the account of `forgetful`, the last first. -/
private def twoResets : List PasswordChange :=
  [⟨5, .seeded 0, 4, 5, true⟩, ⟨2, .seeded 0, 1, 2, true⟩]

private def afterResets : List AcceptedSession := [⟨.seeded 0, 6, 7, true⟩]

theorem doors_closed_resets : ∃ last : PasswordState,
      last.db.changes = twoResets ∧ last.db.accepted = afterResets ∧ DoorsClosed last.db := by
  rcases exists_of_play passwordStore (passwordOpening [forgetful] resets)
    (Event.steps 0 5 () ++ Event.steps 1 5 () ++ Event.steps 2 13 () ++ Event.steps 3 1 () ++
      Event.steps 4 5 () ++ Event.steps 5 13 () ++ Event.steps 6 1 ())
    (fun db => db.changes = twoResets ∧ db.accepted = afterResets ∧ Undisturbed db)
    (by decide +kernel) with ⟨last, reached, changed, accepted, undisturbed⟩
  exact ⟨last, changed, accepted, doors_closed reached undisturbed⟩

/-- Of two links that were mailed the first changes the password after the second has. -/
theorem older_link_changes_password :
    ¬ ∀ (accounts : List PasswordAccount) (requests : Nat -> PasswordRequest)
        (last : PasswordState),
      Reaches passwordStore (fun _ _ => True) (passwordOpening accounts requests) last ->
        DoorsClosed last.db := by
  intro always
  rcases exists_of_play passwordStore (passwordOpening [forgetful] resets)
    (Event.steps 1 5 () ++ Event.steps 4 5 () ++ Event.steps 5 13 () ++ Event.steps 2 13 ())
    (fun db => db.changes = [⟨2, .seeded 0, 0, 4, true⟩, ⟨5, .seeded 0, 1, 2, false⟩])
    (by decide +kernel) with ⟨last, reached, changed⟩
  have issued := (always _ _ last reached).tokens ⟨5, .seeded 0, 1, 2, false⟩
    (by rw [changed]; exact List.mem_cons_of_mem _ List.mem_cons_self)
    ⟨2, .seeded 0, 0, 4, true⟩ (by rw [changed]; exact List.mem_cons_self) rfl (by decide)
  exact absurd issued (by decide)

end Passwords

end LevelChannel
