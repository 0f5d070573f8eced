import LevelChannel.ReadCommitted.Statements
import LevelChannel.Tables.Log
import LevelChannel.Schema.Identifiers

namespace LevelChannel

open ReadCommitted Tables

namespace TeacherLinks

/-!
# The teachers of a learner

An operator moves a learner to one teacher, and a learner who redeems an invite gets one more
teacher.  Both write the links of the learner and the older column of the account, under a
lock that is named after the learner.

Each call does to the learner what it does alone, in the order of the commits.  Only of an
account that has been purged the move leaves the column as it is.
-/

/-! ## Rows -/

structure LinkAccount where
  id : RowId
  assignedTeacherId : Option RowId
  purged : Bool
  deriving DecidableEq

/-- A row of `learner_teacher_links`. -/
structure TeacherLink where
  learnerId : RowId
  teacherId : RowId
  linkedAt : Nat
  unlinkedAt : Option Nat
  deriving DecidableEq

def TeacherLink.key (row : TeacherLink) : RowId × RowId :=
  (row.learnerId, row.teacherId)

structure TeacherInvite where
  id : RowId
  teacherId : RowId
  expiresAt : Nat
  usedAt : Option Nat
  usedBy : Option RowId
  revokedAt : Option Nat
  deriving DecidableEq

inductive LinkCall where
  | set (teacherId : Option RowId)
  | redeem (teacherId : RowId)
  deriving DecidableEq

/-- The tables, the clock and the accounts with the role of a teacher.  The last field is in no
table: the calls that have committed, with their learners, the last first. -/
structure LinksDb where
  clock : Nat
  accounts : List LinkAccount
  links : List TeacherLink
  invites : List TeacherInvite
  teachers : List RowId
  calls : List (RowId × LinkCall)

inductive LinksWrite where
  | assign (learnerId : RowId) (teacherId : Option RowId)
  | unlink (learnerId : RowId) (teacherIds : List RowId) (now : Nat)
  | link (learnerId teacherId : RowId) (now : Nat)
  | consume (inviteId learnerId : RowId) (now : Nat)
  | called (learnerId : RowId) (call : LinkCall)

inductive LinksLock where
  | advisory (learnerId : UuidText)
  | account (id : RowId)
  | link (learnerId teacherId : RowId)
  | invite (id : RowId)
  deriving DecidableEq

def relinked (learnerId teacherId : RowId) (now : Nat) (old : Option TeacherLink) :
    TeacherLink where
  learnerId := learnerId
  teacherId := teacherId
  linkedAt :=
    match old with
    | none => now
    | some row => if row.unlinkedAt.isSome then now else row.linkedAt
  unlinkedAt := none

namespace LinksDb

def account? (db : LinksDb) (id : RowId) : Option LinkAccount :=
  get LinkAccount.id db.accounts id

def link? (db : LinksDb) (learnerId teacherId : RowId) : Option TeacherLink :=
  get TeacherLink.key db.links (learnerId, teacherId)

def unpurged (db : LinksDb) (id : RowId) : Bool :=
  (db.account? id).any fun row => !row.purged

def others (db : LinksDb) (learnerId : RowId) (teacherId : Option RowId) : List RowId :=
  ((db.links.filter fun row => row.learnerId = learnerId && row.unlinkedAt.isNone).map
    TeacherLink.teacherId).filter fun other => teacherId ≠ some other

def redeemable (db : LinksDb) (inviteId : RowId) (now : Nat) : Option TeacherInvite :=
  (get TeacherInvite.id db.invites inviteId).filter fun row =>
    row.usedAt.isNone && row.revokedAt.isNone && decide (now < row.expiresAt) &&
      decide (row.teacherId ∈ db.teachers)

def apply (db : LinksDb) : LinksWrite -> LinksDb
  | .assign learnerId teacherId =>
    { db with
      accounts := db.accounts.map fun row =>
        if row.id = learnerId then { row with assignedTeacherId := teacherId } else row }
  | .unlink learnerId teacherIds now =>
    { db with
      links := db.links.map fun row =>
        if row.learnerId = learnerId ∧ row.teacherId ∈ teacherIds ∧ row.unlinkedAt = none then
          { row with unlinkedAt := some now }
        else row }
  | .link learnerId teacherId now =>
    { db with
      links := upsert TeacherLink.key db.links
        (relinked learnerId teacherId now (db.link? learnerId teacherId)) }
  | .consume inviteId learnerId now =>
    { db with
      invites := db.invites.map fun row =>
        if row.id = inviteId then { row with usedAt := some now, usedBy := some learnerId }
        else row }
  | .called learnerId call => { db with calls := (learnerId, call) :: db.calls }

end LinksDb

inductive LinksDrift where
  | tick (passed : Nat)
  | teachers (ids : List RowId)
  | invites (rows : List TeacherInvite)

def LinksDb.drift (db : LinksDb) : LinksDrift -> LinksDb
  | .tick passed => { db with clock := db.clock + passed }
  | .teachers ids => { db with teachers := ids }
  | .invites rows => { db with invites := rows }

def linksStore : Store LinksDb LinksLock LinksWrite LinksDrift where
  apply := LinksDb.apply
  drift := fun change db => db.drift change
  close := fun _ db => db
  conflict := fun first second => first = second
  conflict_comm := fun _ _ => decide_eq_decide.mpr eq_comm

inductive LinksReply where
  | ok
  | notATeacher
  | notRedeemed
  | thrown
  deriving DecidableEq

abbrev LinksProgram := ReadCommitted.Program LinksDb LinksLock LinksWrite Unit Unit LinksReply

abbrev LinksState := ReadCommitted.State LinksDb LinksLock LinksWrite Unit Unit LinksReply

/-- `update accounts set assigned_teacher_id = .. where id = .. and purged_at is null` -/
def assignColumn (learnerId : RowId) (teacherId : Option RowId) (next : LinksProgram) :
    LinksProgram :=
  .reading () (.done .thrown) fun _ own =>
    if own.unpurged learnerId then
      .writing () [.account learnerId] (.done .thrown) (fun _ => [.assign learnerId teacherId])
        fun _ => next
    else next

/-- The links of `setAssignedTeacher`: all others go, and that to the teacher comes. -/
def moveLinks (learnerId : RowId) (teacherId : Option RowId) (now : Nat) : LinksProgram :=
  match teacherId with
  | none =>
    .writing () [] (.done .thrown)
      (fun own =>
        [.unlink learnerId (own.others learnerId none) now, .called learnerId (.set none)])
      fun _ => .commit (.done .thrown) (.done .ok)
  | some teacher =>
    .writing () [] (.done .thrown)
      (fun own => [.unlink learnerId (own.others learnerId (some teacher)) now])
      fun _ =>
        .guarded () [.link learnerId teacher] (.done .thrown)
          (fun own => (own.account? learnerId).isNone)
          (fun _ => [.link learnerId teacher now, .called learnerId (.set (some teacher))])
          fun _ => .commit (.done .thrown) (.done .ok)

/-- The transaction of `setAssignedTeacher`. -/
def moveLearner (learnerId : UuidText) (teacherId : Option RowId) : LinksProgram :=
  .reading () (.done .thrown) fun _ begun =>
    .acquiring () [.advisory learnerId] (.done .thrown) fun _ _ =>
      assignColumn learnerId.id teacherId (moveLinks learnerId.id teacherId begun.clock)

def setAssignedTeacher (learnerId : UuidText) (teacherId : Option RowId) : LinksProgram :=
  match teacherId with
  | none => moveLearner learnerId none
  | some teacher =>
    .reading () (.done .thrown) fun committed _ =>
      if teacher ∈ committed.teachers then moveLearner learnerId (some teacher)
      else .done .notATeacher

/-- `redeemInviteAndBindLearnerAtomic`, up to what the invite grants. -/
def redeemInviteAndBindLearnerAtomic (inviteId : RowId) (learnerId : UuidText) : LinksProgram :=
  .reading () (.done .thrown) fun _ begun =>
    .acquiring () [.advisory learnerId] (.done .thrown) fun _ _ =>
      .acquiring () [.invite inviteId] (.done .thrown) fun _ own =>
        match own.redeemable inviteId begun.clock with
        | none => .rollback (.done .notRedeemed)
        | some invite =>
          .guarded () [.link learnerId.id invite.teacherId, .account learnerId.id] (.done .thrown)
            (fun own => (own.account? learnerId.id).isNone)
            (fun _ => [.consume inviteId learnerId.id begun.clock,
              .link learnerId.id invite.teacherId begun.clock,
              .assign learnerId.id (some invite.teacherId),
              .called learnerId.id (.redeem invite.teacherId)])
            fun _ => .commit (.done .thrown) (.done .ok)

inductive LinksRequest where
  | set (learnerId : UuidText) (teacherId : Option RowId)
  | redeem (inviteId : RowId) (learnerId : UuidText)
  deriving DecidableEq

def LinksRequest.learnerId : LinksRequest -> UuidText
  | .set learnerId _ => learnerId
  | .redeem _ learnerId => learnerId

def LinksRequest.program : LinksRequest -> LinksProgram
  | .set learnerId teacherId => setAssignedTeacher learnerId teacherId
  | .redeem inviteId learnerId => redeemInviteAndBindLearnerAtomic inviteId learnerId

def linksOpening (opening : LinksDb) (requests : Nat -> LinksRequest) : LinksState :=
  State.start { opening with calls := [] } fun session => (requests session).program

/-! ## One call after the other -/

@[ext]
structure LearnerPart where
  account : Option LinkAccount
  links : RowId -> Option TeacherLink
  calls : List LinkCall

namespace LearnerPart

def assigned (part : LearnerPart) : Option RowId :=
  part.account.bind LinkAccount.assignedTeacherId

def active (part : LearnerPart) (teacherId : RowId) : Bool :=
  (part.links teacherId).any fun row => row.unlinkedAt.isNone

def purged (part : LearnerPart) : Bool :=
  part.account.any LinkAccount.purged

end LearnerPart

def LinksDb.part (db : LinksDb) (learnerId : RowId) : LearnerPart where
  account := db.account? learnerId
  links := db.link? learnerId
  calls := (db.calls.filter fun entry => entry.1 = learnerId).map Prod.snd

/-- The active teachers after some calls that were made one after the other, the last first. -/
def activeAfter (initial : RowId -> Bool) : List LinkCall -> RowId -> Bool
  | [], teacherId => initial teacherId
  | .set only :: _, teacherId => only = some teacherId
  | .redeem more :: earlier, teacherId => more = teacherId || activeAfter initial earlier teacherId

def assignedAfter (purged : Bool) (initial : Option RowId) : List LinkCall -> Option RowId
  | [] => initial
  | .set only :: earlier => if purged then assignedAfter purged initial earlier else only
  | .redeem more :: _ => some more

/-- What a learner has come to is what the calls do that have committed, in their order. -/
structure Serial (first last : LearnerPart) : Prop where
  account : last.account.map LinkAccount.purged = first.account.map LinkAccount.purged
  active : last.active = activeAfter first.active last.calls
  assigned : last.assigned = assignedAfter first.purged first.assigned last.calls

def LearnerPart.Coherent (part : LearnerPart) : Prop :=
  ∀ teacherId, part.assigned = some teacherId -> part.active teacherId = true

def LinksWrite.learnerId : LinksWrite -> RowId
  | .assign learnerId _ => learnerId
  | .unlink learnerId _ _ => learnerId
  | .link learnerId _ _ => learnerId
  | .consume _ learnerId _ => learnerId
  | .called learnerId _ => learnerId

namespace LearnerPart

def apply (part : LearnerPart) (learnerId : RowId) : LinksWrite -> LearnerPart
  | .assign _ teacherId =>
    { part with account := part.account.map fun row => { row with assignedTeacherId := teacherId } }
  | .unlink _ teacherIds now =>
    { part with
      links := fun teacherId => (part.links teacherId).map fun row =>
        if teacherId ∈ teacherIds ∧ row.unlinkedAt = none then { row with unlinkedAt := some now }
        else row }
  | .link _ teacherId now =>
    { part with
      links := Function.update part.links teacherId
        (some (relinked learnerId teacherId now (part.links teacherId))) }
  | .consume _ _ _ => part
  | .called _ call => { part with calls := call :: part.calls }

end LearnerPart

namespace LinksDb

variable {db : LinksDb} {learnerId : RowId}

theorem part_apply (write : LinksWrite) : (db.apply write).part write.learnerId =
      (db.part write.learnerId).apply write.learnerId write := by
  cases write with
  | assign owner teacherId =>
    ext1
    · refine (get_map fun row => ?_).trans (Option.map_congr fun row found => ?_)
      · split_ifs <;> rfl
      · exact if_pos (key_of_get found)
    · rfl
    · rfl
  | unlink owner teacherIds now =>
    ext1
    · rfl
    · funext teacherId
      refine (get_map fun row => ?_).trans (Option.map_congr fun row found => ?_)
      · split_ifs <;> rfl
      · have same : TeacherLink.key row = (owner, teacherId) := key_of_get found
        obtain ⟨rfl, rfl⟩ := Prod.mk.inj same
        simp only [true_and]
    · rfl
  | link owner teacherId now =>
    ext1
    · rfl
    · funext other
      refine get_upsert.trans ?_
      simp only [LearnerPart.apply, Function.update_apply]
      by_cases same : other = teacherId
      · subst same
        rw [if_pos rfl]
        exact if_pos rfl
      · rw [if_neg same]
        exact if_neg fun alike => same (Prod.mk.inj alike).2.symm
    · rfl
  | consume inviteId owner now => rfl
  | called owner call =>
    ext1
    · rfl
    · rfl
    · simp [part, apply, LearnerPart.apply, LinksWrite.learnerId]

theorem part_apply_of_ne (write : LinksWrite) (different : write.learnerId ≠ learnerId) :
    (db.apply write).part learnerId = db.part learnerId := by
  cases write with
  | assign owner teacherId =>
    ext1
    · exact get_map_of_ne (fun _ => by rfl) (Ne.symm different)
    · rfl
    · rfl
  | unlink owner teacherIds now =>
    ext1
    · rfl
    · funext teacherId
      refine (get_map fun row => ?_).trans ?_
      · split_ifs <;> rfl
      · refine (Option.map_congr fun row found => ?_).trans Option.map_id'
        have key : TeacherLink.key row = (learnerId, teacherId) := key_of_get found
        exact if_neg fun same => different (same.1.symm.trans (Prod.mk.inj key).1)
    · rfl
  | link owner teacherId now =>
    ext1
    · rfl
    · funext teacher
      exact get_upsert.trans (if_neg fun same => different (Prod.mk.inj same).1)
    · rfl
  | consume inviteId owner now => rfl
  | called owner call =>
    have different : owner ≠ learnerId := different
    ext1
    · rfl
    · rfl
    · simp [part, apply, different]

theorem part_applyAll {pending : List LinksWrite}
    (own : ∀ write, write ∈ pending -> write.learnerId = learnerId) :
    (linksStore.applyAll db pending).part learnerId =
      pending.foldl (fun part write => part.apply learnerId write) (db.part learnerId) := by
  induction pending generalizing db with
  | nil => rfl
  | cons write rest extend =>
    obtain rfl := own write List.mem_cons_self
    rw [Store.applyAll_cons, List.foldl_cons, extend fun later member =>
      own later (List.mem_cons_of_mem _ member)]
    exact congrArg (rest.foldl _) (part_apply write)

theorem part_applyAll_of_ne {pending : List LinksWrite}
    (other : ∀ write, write ∈ pending -> write.learnerId ≠ learnerId) :
    (linksStore.applyAll db pending).part learnerId = db.part learnerId := by
  induction pending generalizing db with
  | nil => rfl
  | cons write rest extend =>
    rw [Store.applyAll_cons,
      extend fun later member => other later (List.mem_cons_of_mem _ member)]
    exact part_apply_of_ne write (other write List.mem_cons_self)

theorem part_drift (change : LinksDrift) :
    (db.drift change).part learnerId = db.part learnerId := by
  cases change <;> rfl

end LinksDb

/-! ## What a call does to a learner -/

namespace LearnerPart

variable {part : LearnerPart} {now : Nat}

theorem active_iff {teacherId : RowId} : part.active teacherId = true <->
    ∃ row, part.links teacherId = some row ∧ row.unlinkedAt = none := by
  simp only [active, Option.any_eq_true, Option.isNone_iff_eq_none]

theorem active_unlink (learnerId owner : RowId) (teacherIds : List RowId) (teacherId : RowId) :
    (part.apply learnerId (.unlink owner teacherIds now)).active teacherId =
      (part.active teacherId && decide (teacherId ∉ teacherIds)) := by
  simp only [active, apply, Option.any_map]
  cases part.links teacherId with
  | none => rfl
  | some row =>
    by_cases listed : teacherId ∈ teacherIds
    · cases unlinked : row.unlinkedAt <;> simp [listed, unlinked]
    · simp [listed]

theorem active_link (learnerId owner teacherId other : RowId) :
    (part.apply learnerId (.link owner teacherId now)).active other =
      (decide (teacherId = other) || part.active other) := by
  simp only [active, apply, Function.update_apply]
  by_cases same : other = teacherId
  · rw [if_pos same, decide_eq_true same.symm]
    rfl
  · rw [if_neg same, decide_eq_false (Ne.symm same), Bool.false_or]

theorem assigned_assign (learnerId owner : RowId) (teacherId : Option RowId)
    (present : part.account.isSome = true) :
    (part.apply learnerId (.assign owner teacherId)).assigned = teacherId := by
  rcases Option.isSome_iff_exists.mp present with ⟨row, found⟩
  simp only [assigned, apply, found, Option.map_some, Option.bind_some]

end LearnerPart

section Calls

variable {first part : LearnerPart} {learnerId : RowId} {now : Nat}

theorem Serial.isSome (serial : Serial first part) :
    part.account.isSome = first.account.isSome := by
  have same := congrArg Option.isSome serial.account
  simpa only [Option.isSome_map] using same

theorem Serial.purged (serial : Serial first part) : part.purged = first.purged := by
  have same := congrArg (fun flag : Option Bool => flag.any id) serial.account
  simp only [Option.any_map] at same
  exact same

def columnWrites (learnerId : RowId) (teacherId : Option RowId) (unpurged : Bool) :
    List LinksWrite :=
  if unpurged then [.assign learnerId teacherId] else []

def moveWrites (learnerId : RowId) (teacherId : Option RowId) (found : List RowId) (now : Nat) :
    List LinksWrite :=
  match teacherId with
  | none => [.unlink learnerId found now, .called learnerId (.set none)]
  | some teacher => [.unlink learnerId found now, .link learnerId teacher now,
      .called learnerId (.set (some teacher))]

theorem Serial.column (serial : Serial first part) (learnerId : RowId) (teacherId : Option RowId)
    (present : first.account.isSome = true) {unpurged : Bool} (known : unpurged = !first.purged) :
    let moved := (columnWrites learnerId teacherId unpurged).foldl
      (fun part write => part.apply learnerId write) part
    moved.account.map LinkAccount.purged = first.account.map LinkAccount.purged ∧
      moved.links = part.links ∧ moved.calls = part.calls ∧
      moved.assigned = if first.purged then part.assigned else teacherId := by
  cases unpurged with
  | false =>
    have purged : first.purged = true := by simpa using known.symm
    exact ⟨serial.account, rfl, rfl, by rw [purged]; rfl⟩
  | true =>
    have purged : first.purged = false := by simpa using known.symm
    refine ⟨?_, rfl, rfl, ?_⟩
    · simp only [columnWrites, if_true, List.foldl_cons, List.foldl_nil, LearnerPart.apply,
        Option.map_map]
      exact serial.account
    · rw [purged]
      exact LearnerPart.assigned_assign learnerId learnerId teacherId (serial.isSome.trans present)

theorem Serial.move (serial : Serial first part) (teacherId : Option RowId) {found : List RowId}
    (present : first.account.isSome = true) {unpurged : Bool} (known : unpurged = !first.purged)
    (all : ∀ other row, part.links other = some row -> row.unlinkedAt = none ->
      teacherId ≠ some other -> other ∈ found) :
    Serial first ((columnWrites learnerId teacherId unpurged ++
      moveWrites learnerId teacherId found now).foldl
        (fun part write => part.apply learnerId write) part) := by
  rw [List.foldl_append]
  have column := serial.column learnerId teacherId present known
  generalize (columnWrites learnerId teacherId unpurged).foldl
    (fun part write => part.apply learnerId write) part = moved at column
  obtain ⟨account, links, calls, assigned⟩ := column
  have gone (other : RowId) (different : teacherId ≠ some other) :
      (moved.active other && decide (other ∉ found)) = false := by
    cases active : moved.active other with
    | false => rfl
    | true =>
      rcases LearnerPart.active_iff.mp active with ⟨row, linked, unlinked⟩
      have listed := all other row (links ▸ linked) unlinked different
      simp [listed]
  have column : moved.assigned =
      assignedAfter first.purged first.assigned (.set teacherId :: part.calls) := by
    rw [assigned, assignedAfter, serial.assigned]
  cases teacherId with
  | none =>
    refine ⟨account, ?_, by rw [calls.symm] at column; exact column⟩
    funext other
    have different : (none : Option RowId) ≠ some other := (Option.some_ne_none other).symm
    calc
      _ = (moved.active other && decide (other ∉ found)) :=
        LearnerPart.active_unlink learnerId learnerId found other
      _ = false := gone other different
      _ = decide (none = some other) := (decide_eq_false different).symm
  | some teacher =>
    refine ⟨account, ?_, by rw [calls.symm] at column; exact column⟩
    funext other
    calc
      _ = (decide (teacher = other) || (moved.active other && decide (other ∉ found))) :=
        (LearnerPart.active_link learnerId learnerId teacher other).trans
          (congrArg _ (LearnerPart.active_unlink learnerId learnerId found other))
      _ = decide (some teacher = some other) := by
        by_cases same : teacher = other
        · rw [decide_eq_true same, decide_eq_true (congrArg some same), Bool.true_or]
        · have different : some teacher ≠ some other := fun alike => same (Option.some.inj alike)
          rw [decide_eq_false same, decide_eq_false different, gone other different, Bool.or_false]

theorem Serial.redeem (serial : Serial first part) (inviteId teacherId : RowId)
    (present : first.account.isSome = true) :
    Serial first (([.consume inviteId learnerId now, .link learnerId teacherId now,
      .assign learnerId (some teacherId), .called learnerId (.redeem teacherId)] :
        List LinksWrite).foldl (fun part write => part.apply learnerId write) part) := by
  simp only [List.foldl_cons, List.foldl_nil]
  refine ⟨?_, ?_, ?_⟩
  · simp only [LearnerPart.apply, Option.map_map]
    exact serial.account
  · funext other
    refine (LearnerPart.active_link learnerId learnerId teacherId other).trans ?_
    exact congrArg (fun active : RowId -> Bool => decide (teacherId = other) || active other)
      serial.active
  · exact LearnerPart.assigned_assign learnerId learnerId (some teacherId)
      (serial.isSome.trans present)

end Calls

/-- The lock that every call for a learner holds when it changes anything: that of the account
or, of an account that has been purged, the one that is named after the learner. -/
def turn (opening : LinksDb) (spelled : RowId -> UuidText) (learnerId : RowId) : LinksLock :=
  if (opening.part learnerId).purged then .advisory (spelled learnerId) else .account learnerId

def LinksDb.known (opening : LinksDb) (learnerId : RowId) : Prop :=
  (opening.account? learnerId).isSome = true

def LinksDb.Consistent (opening db : LinksDb) : Prop :=
  ∀ learnerId, opening.known learnerId ->
    Serial (opening.part learnerId) (db.part learnerId)

def linksContract (opening : LinksDb) (spelled : RowId -> UuidText) :
    Contract LinksDb LinksLock where
  Good := LinksDb.Consistent opening
  Guarantee _ held before after := ∀ learnerId, opening.known learnerId ->
    after.part learnerId = before.part learnerId ∨ turn opening spelled learnerId ∈ held

theorem linksContract_steady (opening : LinksDb) (spelled : RowId -> UuidText) :
    (linksContract opening spelled).Steady linksStore where
  drift change db consistent learnerId known := by
    have same : (linksStore.drift change db).part learnerId = db.part learnerId :=
      LinksDb.part_drift change
    rw [same]
    exact consistent learnerId known
  close _ _ _ consistent := ⟨consistent, fun _ _ => .inl rfl⟩

/-! ## What the programs do -/

section Programs

open Contract

variable {permits : Unit -> LinksDb -> Prop} {session : Nat} {opening db : LinksDb}
  {spelled : RowId -> UuidText} {held : List LinksLock} {learnerId : RowId}

private abbrev nothing (_ : LinksDb) : Prop := True

private theorem stable_nothing (session : Nat) (held : List LinksLock) :
    Stable (linksContract opening spelled) linksStore session held nothing :=
  Stable.const session held True

def HasTurn (opening : LinksDb) (spelled : RowId -> UuidText) (learnerId : RowId)
    (held : List LinksLock) : Prop :=
  opening.known learnerId -> turn opening spelled learnerId ∈ held

theorem HasTurn.append (has : HasTurn opening spelled learnerId held) (more : List LinksLock) :
    HasTurn opening spelled learnerId (more ++ held) :=
  fun known => List.mem_append_right more (has known)

def Knows (opening : LinksDb) (learnerId : RowId) (part : LearnerPart) (db : LinksDb) : Prop :=
  opening.known learnerId -> db.part learnerId = part

theorem stable_knows (has : HasTurn opening spelled learnerId held) (part : LearnerPart) :
    Stable (linksContract opening spelled) linksStore session held
      (Knows opening learnerId part) := by
  rintro before after knows ⟨-, -, ⟨change, rfl⟩ | ⟨other, theirs, -, compatible, kept⟩⟩ known
  · exact (LinksDb.part_drift change).trans (knows known)
  · rcases kept learnerId known with same | taken
    · exact same.trans (knows known)
    · exact absurd taken (compatible.not_mem (has known) (decide_eq_true rfl))

theorem safe_commit (part : LearnerPart) {pending : List LinksWrite}
    (own : ∀ write, write ∈ pending -> write.learnerId = learnerId)
    (has : HasTurn opening spelled learnerId held) (knows : Knows opening learnerId part db)
    (serial : opening.known learnerId -> Serial (opening.part learnerId) part ->
      Serial (opening.part learnerId)
        (pending.foldl (fun part write => part.apply learnerId write) part)) :
    (linksContract opening spelled).Safe linksStore permits session
      (.commit (.done .thrown) (.done .ok) : LinksProgram) held pending db := by
  refine Safe.last _ (stable_knows has part) knows (fun later knows good => ?_)
    (fun _ _ => trivial) (fun _ _ => trivial)
  have others (other : RowId) (different : other ≠ learnerId) :
      (linksStore.applyAll later pending).part other = later.part other :=
    LinksDb.part_applyAll_of_ne fun write member same =>
      different (same.symm.trans (own write member))
  constructor
  · intro other known
    by_cases same : other = learnerId
    · subst same
      rw [LinksDb.part_applyAll own, knows known]
      exact serial known (knows known ▸ good other known)
    · rw [others other same]
      exact good other known
  · intro other known
    by_cases same : other = learnerId
    · subst same
      exact .inr (has known)
    · exact .inl (others other same)

theorem unpurged_iff (good : opening.Consistent db) (known : opening.known learnerId) :
    db.unpurged learnerId = !(opening.part learnerId).purged := by
  have serial := good learnerId known
  have present := serial.isSome.trans known
  rw [<- serial.purged]
  rcases Option.isSome_iff_exists.mp present with ⟨row, found⟩
  have found : db.account? learnerId = some row := found
  simp only [LinksDb.unpurged, LinksDb.part, LearnerPart.purged, found, Option.any_some]

theorem mem_others {own now : LinksDb} (links : own.links = now.links)
    {teacherId : Option RowId} {other : RowId} {row : TeacherLink}
    (linked : (now.part learnerId).links other = some row) (active : row.unlinkedAt = none)
    (different : teacherId ≠ some other) : other ∈ own.others learnerId teacherId := by
  have key : TeacherLink.key row = (learnerId, other) := key_of_get linked
  obtain ⟨rfl, rfl⟩ := Prod.mk.inj key
  have listed : row ∈ own.links := links ▸ mem_of_get linked
  refine List.mem_filter.mpr ⟨List.mem_map.mpr ⟨row, List.mem_filter.mpr ⟨listed, ?_⟩, rfl⟩, ?_⟩
  · simp [active]
  · exact decide_eq_true different

theorem columnWrites_links (now : LinksDb) (teacherId : Option RowId) (unpurged : Bool) :
    (linksStore.applyAll now (columnWrites learnerId teacherId unpurged)).links = now.links := by
  cases unpurged <;> rfl

theorem columnWrites_own {teacherId : Option RowId} {unpurged : Bool} {write : LinksWrite}
    (member : write ∈ columnWrites learnerId teacherId unpurged) : write.learnerId = learnerId := by
  cases unpurged with
  | false => cases member
  | true =>
    obtain rfl := List.mem_singleton.mp member
    rfl

theorem moveWrites_own {teacherId : Option RowId} {found : List RowId} {now : Nat}
    {write : LinksWrite} (member : write ∈ moveWrites learnerId teacherId found now) :
    write.learnerId = learnerId := by
  cases teacherId with
  | none =>
    simp only [moveWrites, List.mem_cons, List.not_mem_nil, or_false] at member
    rcases member with rfl | rfl <;> rfl
  | some teacher =>
    simp only [moveWrites, List.mem_cons, List.not_mem_nil, or_false] at member
    rcases member with rfl | rfl | rfl <;> rfl

theorem safe_moveLinks (teacherId : Option RowId) (begun : Nat) {unpurged : Bool}
    (has : HasTurn opening spelled learnerId held)
    (known : opening.known learnerId -> unpurged = !(opening.part learnerId).purged) :
    (linksContract opening spelled).Safe linksStore permits session
      (moveLinks learnerId teacherId begun) held (columnWrites learnerId teacherId unpurged)
      db := by
  have finish (now : LinksDb) :
      let found := (linksStore.applyAll now
        (columnWrites learnerId teacherId unpurged)).others learnerId teacherId
      opening.known learnerId -> Serial (opening.part learnerId) (now.part learnerId) ->
        Serial (opening.part learnerId) ((columnWrites learnerId teacherId unpurged ++
          moveWrites learnerId teacherId found begun).foldl
            (fun part write => part.apply learnerId write) (now.part learnerId)) := by
    intro found there serial
    refine serial.move teacherId there (known there) fun other row linked active different => ?_
    exact mem_others (columnWrites_links now teacherId unpurged) linked active different
  have own (found : List RowId) (write : LinksWrite)
      (member : write ∈ columnWrites learnerId teacherId unpurged ++
        moveWrites learnerId teacherId found begun) : write.learnerId = learnerId := by
    rcases List.mem_append.mp member with first | rest
    · exact columnWrites_own first
    · exact moveWrites_own rest
  cases teacherId with
  | none =>
    refine Safe.writing nothing (stable_nothing _ _) trivial (fun _ _ => trivial)
      fun now _ _ _ => ?_
    exact safe_commit (now.part learnerId) (own _) has (fun _ => rfl) (finish now)
  | some teacher =>
    refine Safe.writing nothing (stable_nothing _ _) trivial (fun _ _ => trivial)
      fun now _ _ _ => ?_
    refine Safe.guarded _ (stable_knows has (now.part learnerId)) (fun _ => rfl)
      (fun _ _ => trivial) fun later knows _ _ _ => ?_
    rw [List.append_assoc]
    exact safe_commit (now.part learnerId) (own _) (has.append _) knows (finish now)

theorem safe_moveLearner (learnerId : UuidText) (teacherId : Option RowId)
    (alike : (opening.part learnerId.id).purged = true -> learnerId = spelled learnerId.id) :
    (linksContract opening spelled).Safe linksStore permits session
      (moveLearner learnerId teacherId) [] [] db := by
  refine Safe.reading nothing (stable_nothing _ _) trivial (fun _ _ => trivial)
    fun begun _ _ _ => ?_
  refine Safe.acquiring nothing (stable_nothing _ _) trivial (fun _ _ => trivial)
    fun now _ _ _ => ?_
  refine Safe.reading nothing (stable_nothing _ _) trivial (fun _ _ => trivial)
    fun now _ good _ => ?_
  split
  · next unpurged =>
    have column (known : opening.known learnerId.id) :
        true = !(opening.part learnerId.id).purged :=
      unpurged.symm.trans (unpurged_iff good known)
    refine Safe.writing nothing (stable_nothing _ _) trivial (fun _ _ => trivial)
      fun later _ _ _ => ?_
    refine safe_moveLinks teacherId begun.clock (fun known => ?_) column
    rw [turn, if_neg (by simpa using column known)]
    exact List.mem_cons_self
  · next purged =>
    have column (known : opening.known learnerId.id) :
        false = !(opening.part learnerId.id).purged :=
      (Bool.eq_false_iff.mpr purged).symm.trans (unpurged_iff good known)
    refine safe_moveLinks teacherId begun.clock (fun known => ?_) column
    have gone : (opening.part learnerId.id).purged = true := by simpa using column known
    rw [turn, if_pos gone, <- alike gone]
    exact List.mem_cons_self

theorem safe_setAssignedTeacher (learnerId : UuidText) (teacherId : Option RowId)
    (alike : (opening.part learnerId.id).purged = true -> learnerId = spelled learnerId.id) :
    (linksContract opening spelled).Safe linksStore permits session
      (setAssignedTeacher learnerId teacherId) [] [] db := by
  cases teacherId with
  | none => exact safe_moveLearner learnerId none alike
  | some teacher =>
    refine Safe.reading nothing (stable_nothing _ _) trivial (fun _ _ => trivial)
      fun now _ _ _ => ?_
    split
    · exact safe_moveLearner learnerId (some teacher) alike
    · trivial

theorem safe_redeemInviteAndBindLearnerAtomic (inviteId : RowId) (learnerId : UuidText)
    (alike : (opening.part learnerId.id).purged = true -> learnerId = spelled learnerId.id) :
    (linksContract opening spelled).Safe linksStore permits session
      (redeemInviteAndBindLearnerAtomic inviteId learnerId) [] [] db := by
  refine Safe.reading nothing (stable_nothing _ _) trivial (fun _ _ => trivial)
    fun begun _ _ _ => ?_
  refine Safe.acquiring nothing (stable_nothing _ _) trivial (fun _ _ => trivial)
    fun now _ _ _ => ?_
  refine Safe.acquiring nothing (stable_nothing _ _) trivial (fun _ _ => trivial)
    fun now _ _ _ => ?_
  split
  · exact Safe.rollback nothing (stable_nothing _ _) trivial fun _ _ _ => trivial
  · next invite _ =>
    refine Safe.guarded nothing (stable_nothing _ _) trivial (fun _ _ => trivial)
      fun later _ _ _ _ => ?_
    refine safe_commit (later.part learnerId.id) (fun write member => ?_) (fun known => ?_)
      (fun _ => rfl) fun known serial => serial.redeem inviteId invite.teacherId known
    · simp only [List.nil_append, List.mem_cons, List.not_mem_nil, or_false] at member
      rcases member with rfl | rfl | rfl | rfl <;> rfl
    · unfold turn
      split
      · next gone =>
        rw [<- alike gone]
        simp
      · simp

theorem LinksRequest.safe (request : LinksRequest)
    (alike : (opening.part request.learnerId.id).purged = true ->
      request.learnerId = spelled request.learnerId.id) :
    (linksContract opening spelled).Safe linksStore permits session request.program [] [] db := by
  cases request with
  | set learnerId teacherId => exact safe_setAssignedTeacher learnerId teacherId alike
  | redeem inviteId learnerId =>
    exact safe_redeemInviteAndBindLearnerAtomic inviteId learnerId alike

end Programs

theorem LinksDb.opening_consistent (opening : LinksDb) :
    opening.Consistent { opening with calls := [] } :=
  fun _ _ => ⟨rfl, rfl, rfl⟩

theorem Serial.active_of_set {first last : LearnerPart} (serial : Serial first last)
    {teacherId : Option RowId} {earlier : List LinkCall}
    (moved : last.calls = .set teacherId :: earlier) (other : RowId) :
    last.active other = true <-> teacherId = some other := by
  rw [serial.active, moved]
  exact decide_eq_true_iff

theorem Serial.coherent {first last : LearnerPart} (serial : Serial first last)
    (unpurged : first.purged = false) (coherent : first.Coherent) : last.Coherent := by
  intro teacherId assigned
  rw [serial.assigned, unpurged] at assigned
  rw [serial.active]
  revert assigned
  cases last.calls with
  | nil => exact coherent teacherId
  | cons call earlier =>
    cases call with
    | set only => exact fun assigned => decide_eq_true assigned
    | redeem more =>
      intro assigned
      have same : more = teacherId := Option.some.inj assigned
      exact Bool.or_eq_true_iff.mpr (.inl (decide_eq_true same))

/-- A learner comes to what the committed calls do one after the other: the links whether the
account has been purged or not, and the column in step with them if it has not.  Only of an
account that has been purged it takes callers who spell the learner alike. -/
theorem links_serializable {opening : LinksDb} {requests : Nat -> LinksRequest}
    {last : LinksState} (spelled : RowId -> UuidText)
    (alike : ∀ session, (opening.part (requests session).learnerId.id).purged = true ->
      (requests session).learnerId = spelled (requests session).learnerId.id)
    (reached : Reaches linksStore (fun _ _ => True) (linksOpening opening requests) last)
    (learnerId : RowId) (known : opening.known learnerId) :
    Serial (opening.part learnerId) (last.db.part learnerId) ∧ (∀ teacherId earlier,
        (last.db.part learnerId).calls = .set teacherId :: earlier -> ∀ other,
          (last.db.part learnerId).active other = true <-> teacherId = some other) ∧
      ((opening.part learnerId).purged = false -> (opening.part learnerId).Coherent ->
        (last.db.part learnerId).Coherent) := by
  have sound : Contract.Sound (linksContract opening spelled) linksStore (fun _ _ => True)
      (linksOpening opening requests) :=
    Contract.Sound.start opening.opening_consistent fun session =>
      (requests session).safe (alike session)
  have serial : Serial (opening.part learnerId) (last.db.part learnerId) :=
    (sound.reaches (linksContract_steady opening spelled) reached).1.good learnerId known
  exact ⟨serial, fun teacherId earlier moved => serial.active_of_set moved, serial.coherent⟩

private def invited (purged : Bool) : LinksDb where
  clock := 10
  accounts := [⟨.seeded 0, some (.seeded 1), purged⟩]
  links := [⟨.seeded 0, .seeded 1, 1, none⟩]
  invites := [⟨.seeded 9, .seeded 2, 20, none, none, none⟩]
  teachers := [.seeded 1, .seeded 2, .seeded 3]
  calls := []

/-- The learner redeems the invite while an operator moves the learner. -/
private def redeemAndMove : Nat -> LinksRequest
  | 0 => .set (.canonical (.seeded 0)) (some (.seeded 3))
  | _ => .redeem (.seeded 9) (.canonical (.seeded 0))

theorem links_serializable_of_both : ∃ last : LinksState,
      (last.db.part (.seeded 0)).calls = [.redeem (.seeded 2), .set (some (.seeded 3))] ∧
        Serial ((invited false).part (.seeded 0)) (last.db.part (.seeded 0)) ∧
        (last.db.part (.seeded 0)).Coherent := by
  rcases exists_of_play linksStore (linksOpening (invited false) redeemAndMove)
    (Event.steps 0 5 () ++ Event.steps 1 1 () ++ Event.steps 0 3 () ++ Event.steps 1 4 ())
    (fun db => (db.part (.seeded 0)).calls = [.redeem (.seeded 2), .set (some (.seeded 3))])
    (by decide +kernel) with ⟨last, reached, called⟩
  have serializable := links_serializable UuidText.canonical
    (fun session _ => by cases session <;> rfl) reached (.seeded 0) rfl
  refine ⟨last, called, serializable.1, serializable.2.2 rfl fun teacherId assigned => ?_⟩
  obtain rfl := Option.some.inj assigned
  decide

private def unlinked : LinksDb := { invited true with links := [] }

private def twoMoves : Nat -> LinksRequest
  | 0 => .set (.canonical (.seeded 0)) (some (.seeded 2))
  | _ => .set ⟨.seeded 0, 1⟩ (some (.seeded 3))

/-- The column of a purged account keeps the name of a teacher whose link is taken away, and
two moves of it leave two teachers where the lock has two names. -/
theorem purged_account_keeps_column :
    (¬ ∀ (opening : LinksDb) (requests : Nat -> LinksRequest) (last : LinksState),
      Reaches linksStore (fun _ _ => True) (linksOpening opening requests) last ->
        ∀ learnerId, (opening.part learnerId).Coherent -> (last.db.part learnerId).Coherent) ∧
    ¬ ∀ (opening : LinksDb) (requests : Nat -> LinksRequest) (last : LinksState),
      Reaches linksStore (fun _ _ => True) (linksOpening opening requests) last ->
        ∀ learnerId, opening.known learnerId ->
          Serial (opening.part learnerId) (last.db.part learnerId) := by
  constructor
  · intro always
    rcases exists_of_play linksStore (linksOpening (invited true) redeemAndMove)
      (Event.steps 0 7 ())
      (fun db => (db.part (.seeded 0)).assigned = some (.seeded 1) ∧
        (db.part (.seeded 0)).active (.seeded 1) = false)
      (by decide +kernel) with ⟨last, reached, assigned, inactive⟩
    have active := always _ _ _ reached (.seeded 0) (fun teacherId named => by
      obtain rfl := Option.some.inj named
      decide) _ assigned
    rw [inactive] at active
    exact Bool.false_ne_true active
  · intro always
    rcases exists_of_play linksStore (linksOpening unlinked twoMoves)
      (Event.steps 0 5 () ++ Event.steps 1 5 () ++ Event.steps 0 2 () ++ Event.steps 1 2 ())
      (fun db => (db.part (.seeded 0)).active (.seeded 2) = true ∧
        (db.part (.seeded 0)).calls = [.set (some (.seeded 3)), .set (some (.seeded 2))])
      (by decide +kernel) with ⟨last, reached, active, called⟩
    have only := ((always _ _ _ reached (.seeded 0) rfl).active_of_set called _).mp active
    exact absurd only (by decide)

end TeacherLinks

end LevelChannel
