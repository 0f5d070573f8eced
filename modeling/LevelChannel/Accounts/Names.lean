import LevelChannel.ReadCommitted.Sessions
import LevelChannel.Tables.Log
import LevelChannel.Schema.Identifiers
import LevelChannel.Schema.Text

namespace LevelChannel

open ReadCommitted Tables

namespace Names

/-!
# Names of a learner

A teacher may change parts of a learner's name.  What a call leaves out it reads and writes
back, under a lock that is named after the teacher and the learner as the caller spells it.
Calls of one name wait for each other.  Calls of two teachers do not, and one may undo what
the other has written.
-/

/-- A half of a name as `joinNames` takes it. -/
def trimmedHalf (half : Option String) : String :=
  (half.map jsTrim).getD ""

def joinNames (firstName lastName : Option String) : String :=
  jsTrim (trimmedHalf firstName ++ " " ++ trimmedHalf lastName)

def computeDisplayNameForStorage (firstName lastName : Option String) : Option String :=
  let joined := joinNames firstName lastName
  if joined.isEmpty then none else some joined

/-- What a caller sends.  A half of the name may be left out or cleared, and the address has
passed its own check. -/
structure RenameLearnerInput where
  displayName : Option String
  firstName : Option (Option String)
  lastName : Option (Option String)
  email : Option String
  deriving DecidableEq

inductive RenameError where
  | displayNameEmpty
  | displayNameTooLong
  | firstNameTooLong
  | lastNameTooLong
  | noop
  deriving DecidableEq

def normaliseHalfName (half : Option (Option String)) : Option (Option String) :=
  half.map fun value => value.bind fun text =>
    let trimmed := jsTrim text
    if trimmed.isEmpty then none else some trimmed

def tooLong (half : Option (Option String)) : Bool :=
  half.any fun value => value.any fun text => jsLength text > 60

def normalise (input : RenameLearnerInput) : Except RenameError RenameLearnerInput :=
  let displayName := input.displayName.map jsTrim
  let firstName := normaliseHalfName input.firstName
  let lastName := normaliseHalfName input.lastName
  if displayName.any String.isEmpty then .error .displayNameEmpty
  else if displayName.any fun text => jsLength text > 60 then .error .displayNameTooLong
  else if tooLong firstName then .error .firstNameTooLong
  else if tooLong lastName then .error .lastNameTooLong
  else if displayName.isNone && firstName.isNone && lastName.isNone && input.email.isNone then
    .error .noop
  else .ok ⟨displayName, firstName, lastName, input.email⟩

/-! ## Rows -/

structure NameAccount where
  id : RowId
  email : String
  purged : Bool
  deriving DecidableEq

/-- A row of `account_profiles`. -/
structure Profile where
  accountId : RowId
  displayName : Option String
  firstName : Option String
  lastName : Option String
  deriving DecidableEq

/-- A call that has written names, with the parts it was given.  It counts the calls that had
committed when it read the profile, and when it committed itself. -/
structure Rename where
  teacherId : RowId
  learnerId : UuidText
  displayName : Option String
  firstName : Option (Option String)
  lastName : Option (Option String)
  read : Nat
  moment : Nat
  deriving DecidableEq

/-- The tables, with the teachers of a learner as far as their links are active, and the
accounts that are no learners.  The last field is in no table: the calls that have committed
names, the last first. -/
structure NamesDb where
  accounts : List NameAccount
  learnerTeacherLinks : List (RowId × RowId)
  staff : List RowId
  profiles : List Profile
  renames : List Rename

inductive NamesWrite where
  | email (id : RowId) (email : String)
  | names (rename : Rename) (row : Profile)

inductive NamesLock where
  | rename (teacherId : RowId) (learnerId : UuidText)
  | account (id : RowId)
  | email (email : String)
  | profile (id : RowId)
  deriving DecidableEq

namespace NamesDb

def account? (db : NamesDb) (id : RowId) : Option NameAccount :=
  (get NameAccount.id db.accounts id).filter fun row => !row.purged

def profile? (db : NamesDb) (id : RowId) : Option Profile :=
  get Profile.accountId db.profiles id

def displayName (db : NamesDb) (id : RowId) : Option String :=
  (db.profile? id).bind Profile.displayName

def firstName (db : NamesDb) (id : RowId) : Option String :=
  (db.profile? id).bind Profile.firstName

def lastName (db : NamesDb) (id : RowId) : Option String :=
  (db.profile? id).bind Profile.lastName

def taken (db : NamesDb) (id : RowId) (email : String) : Bool :=
  db.accounts.any fun row => row.email = email && row.id ≠ id

def apply (db : NamesDb) : NamesWrite -> NamesDb
  | .email id email =>
    { db with
      accounts := db.accounts.map fun row =>
        if row.id = id ∧ row.purged = false then { row with email := email } else row }
  | .names rename row =>
    { db with
      profiles := upsert Profile.accountId db.profiles row
      renames := { rename with moment := db.renames.length } :: db.renames }

end NamesDb

structure NamesDrift where
  accounts : List NameAccount
  learnerTeacherLinks : List (RowId × RowId)
  staff : List RowId

def NamesDb.drift (db : NamesDb) (change : NamesDrift) : NamesDb :=
  { db with
    accounts := change.accounts
    learnerTeacherLinks := change.learnerTeacherLinks
    staff := change.staff }

def namesStore : Store NamesDb NamesLock NamesWrite NamesDrift where
  apply := NamesDb.apply
  drift := fun change db => db.drift change
  close := fun _ db => db
  conflict := fun first second => first = second
  conflict_comm := fun _ _ => decide_eq_decide.mpr eq_comm

inductive NamesReply where
  | ok
  | rejected (error : RenameError)
  | notFound
  | wrongArchetype
  | emailInUse
  | thrown
  deriving DecidableEq

abbrev NamesProgram := ReadCommitted.Program NamesDb NamesLock NamesWrite Unit Unit NamesReply

abbrev NamesState := ReadCommitted.State NamesDb NamesLock NamesWrite Unit Unit NamesReply

/-! ## The program -/

def mergedProfile (learnerId : RowId) (names : RenameLearnerInput) (read : Option Profile) :
    Profile :=
  let firstName := names.firstName.getD (read.bind Profile.firstName)
  let lastName := names.lastName.getD (read.bind Profile.lastName)
  { accountId := learnerId
    displayName :=
      if names.firstName.isSome || names.lastName.isSome then
        computeDisplayNameForStorage firstName lastName
      else names.displayName.or (read.bind Profile.displayName)
    firstName := firstName
    lastName := lastName }

def writeNames (teacherId : RowId) (learnerId : UuidText) (names : RenameLearnerInput)
    (read : Option Profile) (count : Nat) : NamesProgram :=
  if names.firstName.isSome || names.lastName.isSome || names.displayName.isSome then
    .writing () [.profile learnerId.id] (.done .thrown)
      (fun _ => [.names ⟨teacherId, learnerId, names.displayName, names.firstName,
        names.lastName, count, 0⟩ (mergedProfile learnerId.id names read)])
      fun _ => .commit (.done .thrown) (.done .ok)
  else .commit (.done .thrown) (.done .ok)

/-- The address of the call, if it has a new one. -/
def writeEmail (learnerId : RowId) (names : RenameLearnerInput) (row : NameAccount)
    (next : NamesProgram) : NamesProgram :=
  match names.email with
  | none => next
  | some email =>
    if email = row.email then next
    else
      .reading () (.done .thrown) fun _ own =>
        if own.taken learnerId email then .rollback (.done .emailInUse)
        else
          .writing () [.account learnerId, .email email] (.done .thrown)
            (fun own => if own.taken learnerId email then [] else [.email learnerId email])
            fun own => if own.taken learnerId email then .rollback (.done .emailInUse) else next

def renameLearnerByTeacher (teacherId : RowId) (learnerId : UuidText)
    (input : RenameLearnerInput) : NamesProgram :=
  match normalise input with
  | .error error => .done (.rejected error)
  | .ok names =>
    .acquiring () [.rename teacherId learnerId] (.done .thrown) fun _ _ =>
      .reading () (.done .thrown) fun _ own =>
        match own.account? learnerId.id with
        | none => .rollback (.done .notFound)
        | some row =>
          if (learnerId.id, teacherId) ∉ own.learnerTeacherLinks then .rollback (.done .notFound)
          else if learnerId.id ∈ own.staff then .rollback (.done .wrongArchetype)
          else
            writeEmail learnerId.id names row
              (writeNames teacherId learnerId names (own.profile? learnerId.id)
                own.renames.length)

structure RenameRequest where
  teacherId : RowId
  learnerId : UuidText
  input : RenameLearnerInput

def RenameRequest.program (request : RenameRequest) : NamesProgram :=
  renameLearnerByTeacher request.teacherId request.learnerId request.input

def NamesDb.opening (people : NamesDrift) (profiles : List Profile) : NamesDb :=
  ⟨people.accounts, people.learnerTeacherLinks, people.staff, profiles, []⟩

def namesOpening (people : NamesDrift) (profiles : List Profile)
    (requests : Nat -> RenameRequest) : NamesState :=
  State.start (.opening people profiles) fun session => (requests session).program

def lastGiven (part : Rename -> Option (Option String)) (learnerId : RowId)
    (initial : Option String) : List Rename -> Option String
  | [] => initial
  | rename :: earlier =>
    if rename.learnerId.id = learnerId then
      (part rename).getD (lastGiven part learnerId initial earlier)
    else lastGiven part learnerId initial earlier

def lastRename (learnerId : RowId) (renames : List Rename) : Option Rename :=
  renames.find? fun rename => rename.learnerId.id = learnerId

def Rename.sameLock (first second : Rename) : Prop :=
  first.teacherId = second.teacherId ∧ first.learnerId = second.learnerId

/-- Between the moment a call reads a profile and its commit no call under another lock
commits names of the learner. -/
def Uncrossed (renames : List Rename) : Prop :=
  ∀ rename, rename ∈ renames -> ∀ other, other ∈ renames ->
    other.learnerId.id = rename.learnerId.id ->
      rename.read ≤ other.moment -> other.moment < rename.moment -> other.sameLock rename

/-- Each half of a name is what the last call has made of it that was given it, and the
display name follows where the last call was given a half. -/
structure NoneLost (profiles : List Profile) (db : NamesDb) : Prop where
  firstName : ∀ id, db.firstName id = lastGiven Rename.firstName id
    ((get Profile.accountId profiles id).bind Profile.firstName) db.renames
  lastName : ∀ id, db.lastName id = lastGiven Rename.lastName id
    ((get Profile.accountId profiles id).bind Profile.lastName) db.renames
  displayName : ∀ id rename, lastRename id db.renames = some rename ->
    rename.firstName ≠ none ∨ rename.lastName ≠ none ->
      db.displayName id = computeDisplayNameForStorage (db.firstName id) (db.lastName id)

namespace NamesDb

variable {profiles : List Profile} {db before after : NamesDb} {held : List NamesLock}

/-- A call has committed before those that count it, and where none crosses another no part
of a name is lost. -/
structure Consistent (profiles : List Profile) (db : NamesDb) : Prop where
  past : ∀ rename, rename ∈ db.renames -> rename.moment < db.renames.length
  kept : Uncrossed db.renames -> NoneLost profiles db

/-- A session leaves the names alone, or commits those of one call under the lock of it. -/
inductive Respects (held : List NamesLock) (before after : NamesDb) : Prop where
  | quiet (profiles : after.profiles = before.profiles) (renames : after.renames = before.renames)
  | renamed (rename : Rename)
      (locked : NamesLock.rename rename.teacherId rename.learnerId ∈ held)
      (counted : rename.moment = before.renames.length)
      (renames : after.renames = rename :: before.renames)
      (others : ∀ id, id ≠ rename.learnerId.id -> after.profile? id = before.profile? id)

/-- What a call knows of the profile that it has read: it is the current one, unless a call
under another lock has committed since. -/
structure Reads (teacherId : RowId) (learnerId : UuidText) (read : Option Profile) (count : Nat)
    (db : NamesDb) : Prop where
  counted : count ≤ db.renames.length
  excluded : ∀ other, other ∈ db.renames -> count ≤ other.moment ->
    ¬ (other.teacherId = teacherId ∧ other.learnerId = learnerId)
  current : (∀ other, other ∈ db.renames -> other.learnerId.id = learnerId.id ->
    other.moment < count) -> db.profile? learnerId.id = read

end NamesDb

def namesContract (profiles : List Profile) : Contract NamesDb NamesLock where
  Good := NamesDb.Consistent profiles
  Guarantee _ held before after := NamesDb.Respects held before after

theorem Uncrossed.tail {rename : Rename} {renames : List Rename}
    (uncrossed : Uncrossed (rename :: renames)) : Uncrossed renames :=
  fun one first two second =>
    uncrossed one (List.mem_cons_of_mem _ first) two (List.mem_cons_of_mem _ second)

namespace NamesDb

variable {profiles : List Profile} {db before after : NamesDb} {held : List NamesLock}
  {teacherId : RowId} {learnerId : UuidText} {read : Option Profile} {count : Nat}

theorem Consistent.of_same (consistent : Consistent profiles before)
    (rows : after.profiles = before.profiles) (renames : after.renames = before.renames) :
    Consistent profiles after where
  past := renames ▸ consistent.past
  kept uncrossed := by
    rw [renames] at uncrossed
    have kept := consistent.kept uncrossed
    have same (id : RowId) : after.profile? id = before.profile? id := by
      rw [profile?, rows, profile?]
    refine ⟨fun id => ?_, fun id => ?_, fun id rename => ?_⟩
    · rw [firstName, same, renames]
      exact kept.firstName id
    · rw [lastName, same, renames]
      exact kept.lastName id
    · rw [firstName, lastName, displayName, same, renames]
      exact kept.displayName id rename

theorem Reads.of_same (reads : Reads teacherId learnerId read count before)
    (rows : after.profiles = before.profiles) (renames : after.renames = before.renames) :
    Reads teacherId learnerId read count after where
  counted := renames ▸ reads.counted
  excluded := renames ▸ reads.excluded
  current := by
    rw [renames, profile?, rows]
    exact reads.current

theorem Consistent.reads (consistent : Consistent profiles db) (teacherId : RowId)
    (learnerId : UuidText) :
    Reads teacherId learnerId (db.profile? learnerId.id) db.renames.length db where
  counted := Nat.le_refl _
  excluded other member later :=
    absurd (consistent.past other member) (Nat.not_lt_of_le later)
  current _ := rfl

theorem Reads.current_of_uncrossed (reads : Reads teacherId learnerId read count db)
    (consistent : Consistent profiles db) {rename : Rename}
    (uncrossed : Uncrossed (rename :: db.renames)) (teacher : rename.teacherId = teacherId)
    (learner : rename.learnerId = learnerId) (stamped : rename.read = count)
    (moment : rename.moment = db.renames.length) : db.profile? learnerId.id = read := by
  subst teacher learner stamped
  refine reads.current fun other member same => ?_
  by_contra later
  have past := consistent.past other member
  rw [<- moment] at past
  have locked := uncrossed rename List.mem_cons_self other (List.mem_cons_of_mem _ member) same
    (Nat.le_of_not_lt later) past
  exact reads.excluded other member (Nat.le_of_not_lt later) locked

theorem Consistent.names (consistent : Consistent profiles db) {names : RenameLearnerInput}
    (reads : Reads teacherId learnerId read count db) :
    Consistent profiles (db.apply (.names ⟨teacherId, learnerId, names.displayName,
      names.firstName, names.lastName, count, 0⟩ (mergedProfile learnerId.id names read))) where
  past rename member := by
    rcases List.mem_cons.mp member with rfl | old
    · exact Nat.lt_succ_self _
    · exact Nat.lt_succ_of_lt (consistent.past rename old)
  kept uncrossed := by
    have kept := consistent.kept uncrossed.tail
    have current : db.profile? learnerId.id = read :=
      reads.current_of_uncrossed consistent uncrossed rfl rfl rfl rfl
    have first := kept.firstName learnerId.id
    have last := kept.lastName learnerId.id
    rw [firstName, current] at first
    rw [lastName, current] at last
    have profile (id : RowId) :
        get Profile.accountId (upsert Profile.accountId db.profiles (mergedProfile learnerId.id
            names read)) id =
          if learnerId.id = id then some (mergedProfile learnerId.id names read)
          else get Profile.accountId db.profiles id :=
      get_upsert
    refine ⟨fun id => ?_, fun id => ?_, fun id rename => ?_⟩
    · simp only [firstName, profile?, apply, profile, lastGiven]
      by_cases same : learnerId.id = id
      · subst same
        rw [if_pos rfl, if_pos rfl, <- first]
        rfl
      · rw [if_neg same, if_neg same]
        exact kept.firstName id
    · simp only [lastName, profile?, apply, profile, lastGiven]
      by_cases same : learnerId.id = id
      · subst same
        rw [if_pos rfl, if_pos rfl, <- last]
        rfl
      · rw [if_neg same, if_neg same]
        exact kept.lastName id
    · simp only [displayName, firstName, lastName, profile?, apply, profile, lastRename,
        List.find?_cons]
      by_cases same : learnerId.id = id
      · subst same
        rw [if_pos rfl, decide_eq_true rfl]
        rintro found given
        obtain rfl := Option.some.inj found
        have given : (names.firstName.isSome || names.lastName.isSome) = true := by
          simpa [Option.isSome_iff_ne_none] using given
        simp only [Option.bind_some, mergedProfile, given, if_true]
      · rw [if_neg same, decide_eq_false same]
        exact kept.displayName id rename

end NamesDb

theorem namesContract_steady (profiles : List Profile) :
    (namesContract profiles).Steady namesStore where
  drift _ _ consistent := consistent.of_same rfl rfl
  close _ _ _ consistent := ⟨consistent, .quiet rfl rfl⟩

/-! ## What the programs do -/

section Programs

open Contract

variable {permits : Unit -> NamesDb -> Prop} {session : Nat} {profiles : List Profile}
  {db : NamesDb} {teacherId : RowId} {learnerId : UuidText} {read : Option Profile} {count : Nat}

private abbrev anything (_ : NamesDb) : Prop := True

private theorem stable_anything (session : Nat) (held : List NamesLock) :
    Stable (namesContract profiles) namesStore session held anything :=
  Stable.const session held True

theorem stable_reads {held : List NamesLock}
    (locked : NamesLock.rename teacherId learnerId ∈ held) :
    Stable (namesContract profiles) namesStore session held
      (NamesDb.Reads teacherId learnerId read count) := by
  rintro before after reads ⟨-, -, ⟨change, rfl⟩ | ⟨other, theirs, -, compatible, respects⟩⟩
  · exact reads.of_same rfl rfl
  · cases respects with
    | quiet rows renames => exact reads.of_same rows renames
    | renamed rename takes counted renames others =>
      have apart : ¬ (rename.teacherId = teacherId ∧ rename.learnerId = learnerId) := by
        rintro ⟨rfl, rfl⟩
        exact compatible.not_mem locked (decide_eq_true rfl) takes
      refine ⟨?_, fun other member => ?_, fun settled => ?_⟩
      · rw [renames]
        exact Nat.le_succ_of_le reads.counted
      · rw [renames] at member
        rcases List.mem_cons.mp member with rfl | old
        · exact fun _ => apart
        · exact reads.excluded other old
      · rw [renames] at settled
        have elsewhere : learnerId.id ≠ rename.learnerId.id := by
          intro same
          have earlier := settled rename List.mem_cons_self same.symm
          exact absurd reads.counted (Nat.not_le_of_lt (counted ▸ earlier))
        rw [others learnerId.id elsewhere]
        exact reads.current fun other member => settled other (List.mem_cons_of_mem _ member)

def Addresses (pending : List NamesWrite) : Prop :=
  ∀ write, write ∈ pending -> ∃ id email, write = NamesWrite.email id email

theorem Addresses.same {pending : List NamesWrite} (addresses : Addresses pending) (db : NamesDb) :
    (namesStore.applyAll db pending).profiles = db.profiles ∧
      (namesStore.applyAll db pending).renames = db.renames := by
  induction pending generalizing db with
  | nil => exact ⟨rfl, rfl⟩
  | cons write rest extend =>
    rcases addresses write List.mem_cons_self with ⟨id, email, rfl⟩
    exact extend (fun later member => addresses later (List.mem_cons_of_mem _ member)) _

theorem safe_nothing {pending : List NamesWrite} (addresses : Addresses pending)
    (held : List NamesLock) : (namesContract profiles).Safe namesStore permits session
      (.commit (.done .thrown) (.done .ok) : NamesProgram) held pending db := by
  refine Safe.last anything (stable_anything _ _) trivial (fun later _ good => ?_)
    (fun _ _ => trivial) (fun _ _ => trivial)
  rcases addresses.same later with ⟨rows, renames⟩
  exact ⟨NamesDb.Consistent.of_same good rows renames, .quiet rows renames⟩

theorem safe_writeNames (names : RenameLearnerInput) {pending : List NamesWrite}
    (addresses : Addresses pending) {held : List NamesLock}
    (locked : NamesLock.rename teacherId learnerId ∈ held)
    (reads : NamesDb.Reads teacherId learnerId read count db) :
    (namesContract profiles).Safe namesStore permits session
      (writeNames teacherId learnerId names read count) held pending db := by
  unfold writeNames
  split
  · refine Safe.writing _ (stable_reads locked) reads (fun _ _ => trivial)
      fun now reads _ _ => ?_
    have still : NamesLock.rename teacherId learnerId ∈ [NamesLock.profile learnerId.id] ++ held :=
      List.mem_append_right _ locked
    refine Safe.last _ (stable_reads still) reads (fun later reads good => ?_)
      (fun _ _ => trivial) (fun _ _ => trivial)
    rcases addresses.same later with ⟨rows, renames⟩
    have good := NamesDb.Consistent.of_same good rows renames
    have reads := reads.of_same rows renames
    rw [Store.applyAll_append]
    refine ⟨good.names reads, ?_⟩
    refine .renamed _ still ?_ (congrArg _ renames) fun id elsewhere => ?_
    · exact congrArg List.length renames
    · have unmatched : ¬ (mergedProfile learnerId.id names read).accountId = id :=
        Ne.symm elsewhere
      refine get_upsert.trans ?_
      rw [if_neg unmatched, rows]
      rfl
  · exact safe_nothing addresses held

theorem safe_writeEmail (names : RenameLearnerInput) (row : NameAccount) {held : List NamesLock}
    (locked : NamesLock.rename teacherId learnerId ∈ held)
    (reads : NamesDb.Reads teacherId learnerId read count db) :
    (namesContract profiles).Safe namesStore permits session
      (writeEmail learnerId.id names row (writeNames teacherId learnerId names read count))
      held [] db := by
  have clean : Addresses [] := fun _ member => absurd member List.not_mem_nil
  unfold writeEmail
  split
  · exact safe_writeNames names clean locked reads
  · next email _ =>
    split
    · exact safe_writeNames names clean locked reads
    · refine Safe.reading _ (stable_reads locked) reads (fun _ _ => trivial)
        fun now reads _ _ => ?_
      split
      · exact Safe.rollback anything (stable_anything _ _) trivial fun _ _ _ => trivial
      · refine Safe.writing _ (stable_reads locked) reads (fun _ _ => trivial)
          fun now reads _ _ => ?_
        by_cases taken : now.taken learnerId.id email = true
        · simp only [Store.applyAll_nil, taken, if_true]
          exact Safe.rollback anything (stable_anything _ _) trivial fun _ _ _ => trivial
        · simp only [Store.applyAll_nil, taken, Bool.false_eq_true, if_false]
          refine safe_writeNames names (fun write member => ?_)
            (List.mem_append_right _ locked) reads
          exact ⟨learnerId.id, email, List.mem_singleton.mp member⟩

theorem RenameRequest.safe (request : RenameRequest) :
    (namesContract profiles).Safe namesStore permits session request.program [] [] db := by
  unfold RenameRequest.program renameLearnerByTeacher
  split
  · trivial
  · next names _ =>
    refine Safe.acquiring anything (stable_anything _ _) trivial (fun _ _ => trivial)
      fun now _ _ _ => ?_
    refine Safe.reading anything (stable_anything _ _) trivial (fun _ _ => trivial)
      fun now _ good _ => ?_
    split
    · exact Safe.rollback anything (stable_anything _ _) trivial fun _ _ _ => trivial
    · split
      · exact Safe.rollback anything (stable_anything _ _) trivial fun _ _ _ => trivial
      · split
        · exact Safe.rollback anything (stable_anything _ _) trivial fun _ _ _ => trivial
        · exact safe_writeEmail names _ List.mem_cons_self
            (NamesDb.Consistent.reads good request.teacherId request.learnerId)

end Programs

theorem NamesDb.opening_consistent (people : NamesDrift) (profiles : List Profile) :
    (NamesDb.opening people profiles).Consistent profiles where
  past _ member := absurd member List.not_mem_nil
  kept _ := ⟨fun _ => rfl, fun _ => rfl, fun _ _ found => by cases found⟩

/-- Where no call commits names of a learner between the read and the commit of a call under
another lock, no part of a name is lost. -/
theorem names_kept {people : NamesDrift} {profiles : List Profile}
    {requests : Nat -> RenameRequest} {last : NamesState}
    (reached : Reaches namesStore (fun _ _ => True) (namesOpening people profiles requests) last)
    (uncrossed : Uncrossed last.db.renames) : NoneLost profiles last.db := by
  have sound : Contract.Sound (namesContract profiles) namesStore (fun _ _ => True)
      (namesOpening people profiles requests) :=
    Contract.Sound.start (NamesDb.opening_consistent people profiles) fun session =>
      (requests session).safe
  exact (sound.reaches (namesContract_steady profiles) reached).1.good.kept uncrossed

instance (renames : List Rename) : Decidable (Uncrossed renames) :=
  inferInstanceAs (Decidable (∀ rename, rename ∈ renames -> ∀ other, other ∈ renames ->
    other.learnerId.id = rename.learnerId.id ->
      rename.read ≤ other.moment -> other.moment < rename.moment ->
        other.teacherId = rename.teacherId ∧ other.learnerId = rename.learnerId))

private def shared : NamesDrift where
  accounts := [⟨.seeded 0, "ann@example.com", false⟩]
  learnerTeacherLinks := [(.seeded 0, .seeded 1), (.seeded 0, .seeded 2)]
  staff := [.seeded 1, .seeded 2]

private def annProfile : Profile := ⟨.seeded 0, some "Ann Lee", some "Ann", some "Lee"⟩

private def halves : Nat -> RenameRequest
  | 0 => ⟨.seeded 1, .canonical (.seeded 0), ⟨none, some (some "Anna"), none, none⟩⟩
  | _ => ⟨.seeded 2, .canonical (.seeded 0), ⟨none, none, some (some "Leigh"), none⟩⟩

theorem names_kept_in_turn : ∃ last : NamesState,
      last.db.profiles = [⟨.seeded 0, some "Anna Leigh", some "Anna", some "Leigh"⟩] ∧
        NoneLost [annProfile] last.db := by
  rcases exists_of_play namesStore (namesOpening shared [annProfile] halves)
    (Event.steps 0 4 () ++ Event.steps 1 4 ())
    (fun db => db.profiles = [⟨.seeded 0, some "Anna Leigh", some "Anna", some "Leigh"⟩] ∧
      Uncrossed db.renames)
    (by decide +kernel) with ⟨last, reached, renamed, uncrossed⟩
  exact ⟨last, renamed, names_kept reached uncrossed⟩

/-- Both teachers read the name before either has committed. -/
theorem first_name_lost :
    ¬ ∀ (people : NamesDrift) (profiles : List Profile) (requests : Nat -> RenameRequest)
        (last : NamesState),
      Reaches namesStore (fun _ _ => True) (namesOpening people profiles requests) last ->
        NoneLost profiles last.db := by
  intro always
  rcases exists_of_play namesStore (namesOpening shared [annProfile] halves)
    (Event.steps 0 2 () ++ Event.steps 1 2 () ++ Event.steps 0 2 () ++ Event.steps 1 2 ())
    (fun db => db.firstName (.seeded 0) = some "Ann" ∧
      lastGiven Rename.firstName (.seeded 0) (some "Ann") db.renames = some "Anna")
    (by decide +kernel) with ⟨last, reached, kept, given⟩
  have same := (always _ _ _ last reached).firstName (.seeded 0)
  rw [kept] at same
  exact absurd (same.trans given) (by decide)

end Names

end LevelChannel
