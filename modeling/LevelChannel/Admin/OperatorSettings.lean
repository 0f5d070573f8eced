import LevelChannel.ReadCommitted.Sessions
import LevelChannel.Tables.Rows

namespace LevelChannel

open ReadCommitted Tables

namespace Admin

/-!
# Operator settings

An operator edits a setting on a page that was read some time ago.  The page carries the
time of the row's last write as a token, and an edit goes through only if the row still has
that time.  Both are rendered by way of `String`, which keeps whole seconds only: two
versions of a setting that were written in one second carry the same token.
-/

/-- A row of `operator_settings`.  Two fields stand for no column: the session that inserted
the row, which is what its lock belongs to, and the session that wrote this version. -/
structure SettingRow where
  key : String
  value : String
  updatedAt : Nat
  inserted : Nat
  version : Nat
  deriving DecidableEq, Repr

/-- `new Date(String(updated_at)).toISOString()`, in microseconds. -/
def isoOf (updatedAt : Nat) : Nat :=
  updatedAt / 1000000 * 1000000

structure SettingVersion where
  key : String
  version : Nat
  token : Nat
  deriving DecidableEq, Repr

/-- An edit that went through: the token it carried, the version that was read for it, and
the version it replaced; none stands for no row. -/
structure AcceptedEdit where
  session : Nat
  key : String
  token : Option Nat
  read : Option Nat
  replaced : Option Nat
  deriving DecidableEq, Repr

/-- The table and the clock, with two records that no table holds: every version there has
been, and every edit that went through. -/
structure SettingsDb where
  clock : Nat
  rows : List SettingRow
  history : List SettingVersion
  accepted : List AcceptedEdit

inductive SettingsWrite where
  | row (change : Change SettingRow)
  | version (entry : SettingVersion)
  | accepted (edit : AcceptedEdit)

inductive SettingsLock where
  | row (inserted : Nat)
  | entry (key : String)
  deriving DecidableEq

namespace SettingsDb

def row? (db : SettingsDb) (key : String) : Option SettingRow :=
  get SettingRow.key db.rows key

def apply (db : SettingsDb) : SettingsWrite -> SettingsDb
  | .row change => { db with rows := change.apply SettingRow.key db.rows }
  | .version entry => { db with history := entry :: db.history }
  | .accepted edit => { db with accepted := edit :: db.accepted }

end SettingsDb

def settingsStore : Store SettingsDb SettingsLock SettingsWrite Nat where
  apply := SettingsDb.apply
  drift := fun passed db => { db with clock := db.clock + passed }
  close := fun _ db => db
  conflict := fun first second => first = second
  conflict_comm := fun _ _ => decide_eq_decide.mpr eq_comm

/-! ## Programs -/

/-- `WriteResult`, or an error that is thrown. -/
inductive WriteResult where
  | ok (updatedAt : Nat)
  | unknownKey
  | invalidValue
  | concurrentUpdate
  | thrown
  deriving DecidableEq

abbrev SettingsProgram := Program SettingsDb SettingsLock SettingsWrite Unit Unit WriteResult

abbrev SettingsState := State SettingsDb SettingsLock SettingsWrite Unit Unit WriteResult

structure SeenSetting where
  expectedUpdatedAt : Option Nat
  version : Option Nat
  deriving DecidableEq

/-- `listOperatorSettingsForAdmin`, for one key. -/
def SettingsDb.seen (db : SettingsDb) (key : String) : SeenSetting where
  expectedUpdatedAt := (db.row? key).map fun row => isoOf row.updatedAt
  version := (db.row? key).map SettingRow.version

def thrown : SettingsProgram := .done .thrown

def refused : SettingsProgram := .rollback (.done .concurrentUpdate)

/-- `select … for update`.  A row that was deleted while the statement waited is not
returned, nor one that was inserted under the key since. -/
def lockPrior (key : String) (next : Option SettingRow -> SettingsProgram) : SettingsProgram :=
  .reading () thrown fun committed _ =>
    match committed.row? key with
    | none => next none
    | some row =>
      .acquiring () [.row row.inserted] thrown fun _ own =>
        next ((own.row? key).filter fun prior => prior.inserted = row.inserted)

/-- `SETTING_SCHEMA`, by key: the text a valid value is stored as. -/
abbrev SettingSchemas := String -> Option (String -> Option String)

/-- `setOperatorSetting`.  A transaction has one time, that of its beginning; the audit row
is left out. -/
def setOperatorSetting (schemas : SettingSchemas) (session : Nat) (key value : String)
    (seen : SeenSetting) : SettingsProgram :=
  match schemas key with
  | none => .done .unknownKey
  | some validate =>
    match validate value with
    | none => .done .invalidValue
    | some persisted =>
      .reading () thrown fun _ begun =>
        let now := begun.clock
        let edit := AcceptedEdit.mk session key seen.expectedUpdatedAt seen.version
        lockPrior key fun prior =>
          match prior with
          | none =>
            if seen.expectedUpdatedAt ≠ none then refused
            else
              .writing () [.entry key] thrown
                (fun own => if (own.row? key).isSome then [] else
                  [.row (.insert ⟨key, persisted, now, session, session⟩),
                    .version ⟨key, session, isoOf now⟩, .accepted (edit none)])
                fun own => if (own.row? key).isSome then refused
                  else .commit thrown (.done (.ok (isoOf now)))
          | some row =>
            if seen.expectedUpdatedAt = none then refused
            else if seen.expectedUpdatedAt ≠ some (isoOf row.updatedAt) then refused
            else
              .writing () [] thrown
                (fun _ => [.row (.replace
                    { row with value := persisted, updatedAt := now, version := session }),
                  .version ⟨key, session, isoOf now⟩, .accepted (edit (some row.version))])
                fun _ => .commit thrown (.done (.ok (isoOf now)))

def deleteOperatorSetting (schemas : SettingSchemas) (session : Nat) (key : String)
    (expectedUpdatedAt : Nat) (version : Option Nat) : SettingsProgram :=
  if (schemas key).isNone then .done .unknownKey
  else
    lockPrior key fun prior =>
      match prior with
      | none => refused
      | some row =>
        if isoOf row.updatedAt ≠ expectedUpdatedAt then refused
        else
          .writing () [] thrown
            (fun _ => [.row (.delete row),
              .accepted ⟨session, key, some expectedUpdatedAt, version, some row.version⟩])
            fun own => .commit thrown (.done (.ok own.clock))

inductive SettingEdit where
  | set (value : String)
  | delete
  deriving DecidableEq

structure SettingRequest where
  key : String
  edit : SettingEdit
  deriving DecidableEq

/-- An operator reads the page and sends an edit later.  A setting without a row has nothing
to delete. -/
def editSetting (schemas : SettingSchemas) (session : Nat) (request : SettingRequest) :
    SettingsProgram :=
  .reading () thrown fun committed _ =>
    let seen := committed.seen request.key
    match request.edit with
    | .set value => setOperatorSetting schemas session request.key value seen
    | .delete =>
      match seen.expectedUpdatedAt with
      | none => .done .concurrentUpdate
      | some expectedUpdatedAt =>
        deleteOperatorSetting schemas session request.key expectedUpdatedAt seen.version

def settingsOpening (schemas : SettingSchemas) (requests : Nat -> SettingRequest) : SettingsState :=
  State.start ⟨0, [], [], []⟩ fun session => editSetting schemas session (requests session)

def SecondsApart (db : SettingsDb) : Prop :=
  ∀ first, first ∈ db.history -> ∀ second, second ∈ db.history ->
    first.key = second.key -> first.token = second.token -> first.version = second.version

instance (db : SettingsDb) : Decidable (SecondsApart db) := by
  unfold SecondsApart
  infer_instance

/-- An edit went through only over the version it was made for, and of the edits that carry
one token only one did. -/
structure NoneLost (db : SettingsDb) : Prop where
  current : ∀ edit, edit ∈ db.accepted -> edit.replaced = edit.read
  once : db.accepted.Pairwise fun first second =>
    first.key = second.key -> first.token ≠ none -> first.token ≠ second.token

/-! ## The contract -/

namespace SettingsDb

variable {db after : SettingsDb} {session : Nat} {key : String} {edit : AcceptedEdit}

/-- The token of an edit stands for the version that was read and for the one that was
replaced, unless there was no row either time. -/
inductive Carried (db : SettingsDb) (edit : AcceptedEdit) : Prop where
  | token (token read replaced : Nat) (carries : edit.token = some token)
      (seen : edit.read = some read) (replaces : edit.replaced = some replaced)
      (shown : ⟨edit.key, read, token⟩ ∈ db.history)
      (current : ⟨edit.key, replaced, token⟩ ∈ db.history)
  | absent (carries : edit.token = none) (seen : edit.read = none) (replaces : edit.replaced = none)

theorem Carried.mono (carried : Carried db edit)
    (grows : ∀ entry, entry ∈ db.history -> entry ∈ after.history) : Carried after edit := by
  cases carried with
  | token token read replaced carries seen replaces shown current =>
    exact .token token read replaced carries seen replaces (grows _ shown) (grows _ current)
  | absent carries seen replaces => exact .absent carries seen replaces

/-- A version is replaced once, and does not come back. -/
structure Traced (db : SettingsDb) : Prop where
  current : ∀ key row, db.row? key = some row ->
    ⟨key, row.version, isoOf row.updatedAt⟩ ∈ db.history
  carried : ∀ edit, edit ∈ db.accepted -> Carried db edit
  gone : ∀ edit, edit ∈ db.accepted -> ∀ row, db.row? edit.key = some row ->
    edit.replaced ≠ some row.version
  once : db.accepted.Pairwise fun first second =>
    first.key = second.key -> first.replaced ≠ none -> first.replaced ≠ second.replaced

def Fresh (session : Nat) (db : SettingsDb) : Prop :=
  ∀ entry, entry ∈ db.history -> entry.version ≠ session

/-- Locked rows change, and keys that are locked get one; the versions are the session's. -/
structure Respects (session : Nat) (held : List SettingsLock) (before after : SettingsDb) :
    Prop where
  rows : ∀ key row, before.row? key = some row -> .row row.inserted ∉ held ->
    after.row? key = some row
  absent : ∀ key, before.row? key = none -> .entry key ∉ held -> after.row? key = none
  grows : ∀ entry, entry ∈ before.history -> entry ∈ after.history
  own : ∀ entry, entry ∈ after.history -> entry ∈ before.history ∨ entry.version = session

/-- An edit that went through, and the state it leaves. -/
structure EditedBy (session : Nat) (db after : SettingsDb) (edit : AcceptedEdit) : Prop where
  written : ∀ row, after.row? edit.key = some row -> row.version = session ∧
    ⟨edit.key, session, isoOf row.updatedAt⟩ ∈ after.history
  others : ∀ key, key ≠ edit.key -> after.row? key = db.row? key
  accepted : after.accepted = edit :: db.accepted
  grows : ∀ entry, entry ∈ db.history -> entry ∈ after.history
  own : ∀ entry, entry ∈ after.history -> entry ∈ db.history ∨ entry.version = session
  replaced : edit.replaced = (db.row? edit.key).map SettingRow.version
  carried : Carried db edit

theorem Carried.replaced_ne (carried : Carried db edit) (fresh : db.Fresh session) :
    edit.replaced ≠ some session := by
  cases carried with
  | token token read replaced carries seen replaces shown current =>
    intro same
    rw [replaces] at same
    exact fresh _ current (Option.some.inj same)
  | absent carries seen replaces =>
    intro same
    rw [replaces] at same
    cases same

theorem EditedBy.traced (edited : EditedBy session db after edit) (traced : db.Traced)
    (fresh : db.Fresh session) : after.Traced where
  current key row read := by
    by_cases same : key = edit.key
    · subst same
      rcases edited.written row read with ⟨version, listed⟩
      exact version ▸ listed
    · exact edited.grows _ (traced.current key row (edited.others key same ▸ read))
  carried other member := by
    rw [edited.accepted] at member
    rcases List.mem_cons.mp member with rfl | old
    · exact edited.carried.mono edited.grows
    · exact (traced.carried other old).mono edited.grows
  gone other member row read := by
    have carried : Carried db other := by
      rw [edited.accepted] at member
      rcases List.mem_cons.mp member with rfl | old
      · exact edited.carried
      · exact traced.carried other old
    by_cases same : other.key = edit.key
    · rw [same] at read
      rw [(edited.written row read).1]
      exact carried.replaced_ne fresh
    · rw [edited.accepted] at member
      rcases List.mem_cons.mp member with rfl | old
      · exact absurd rfl same
      · exact traced.gone other old row (edited.others _ same ▸ read)
  once := by
    rw [edited.accepted]
    refine List.pairwise_cons.mpr ⟨fun other member same replaces => ?_, traced.once⟩
    rw [edited.replaced] at replaces ⊢
    cases read : db.row? edit.key with
    | none =>
      rw [read] at replaces
      exact absurd rfl replaces
    | some row => exact (traced.gone other member row (same ▸ read)).symm

theorem EditedBy.respects (edited : EditedBy session db after edit) {held : List SettingsLock}
    (rowLocked : ∀ row, db.row? edit.key = some row -> .row row.inserted ∈ held)
    (keyLocked : db.row? edit.key = none -> .entry edit.key ∈ held ∨
      after.row? edit.key = none) : Respects session held db after where
  rows key row read free := by
    by_cases same : key = edit.key
    · subst same
      exact absurd (rowLocked row read) free
    · exact (edited.others key same).trans read
  absent key read free := by
    by_cases same : key = edit.key
    · subst same
      exact (keyLocked read).resolve_left free
    · exact (edited.others key same).trans read
  grows := edited.grows
  own := edited.own

theorem editedBy_insert (row : SettingRow) (edit : AcceptedEdit)
    (read : db.row? row.key = none) (version : row.version = session)
    (keyed : edit.key = row.key) (replaces : edit.replaced = none) (carried : Carried db edit) :
    db.EditedBy session (((db.apply (.row (.insert row))).apply
      (.version ⟨row.key, session, isoOf row.updatedAt⟩)).apply (.accepted edit)) edit := by
  have inserted : ∀ other, get SettingRow.key ((Change.insert row).apply SettingRow.key
      db.rows) other = (db.row? other).or (if row.key = other then some row else none) :=
    fun _ => get_insert row
  refine ⟨fun later found => ?_, fun other different => ?_, rfl,
    fun _ member => List.mem_cons_of_mem _ member, fun entry member => ?_, ?_, carried⟩
  · have same := (inserted edit.key).symm.trans found
    rw [keyed, read, Option.none_or, if_pos rfl] at same
    rw [← Option.some.inj same, keyed]
    exact ⟨version, List.mem_cons_self⟩
  · refine (inserted other).trans ?_
    rw [if_neg fun same => different (same.symm.trans keyed.symm), Option.or_none]
  · rcases List.mem_cons.mp member with rfl | old
    · exact Or.inr rfl
    · exact Or.inl old
  · rw [keyed, read, replaces, Option.map_none]

theorem editedBy_replace (row written : SettingRow) (edit : AcceptedEdit)
    (read : db.row? row.key = some row) (same : written.key = row.key)
    (version : written.version = session) (keyed : edit.key = row.key)
    (replaces : edit.replaced = some row.version) (carried : Carried db edit) :
    db.EditedBy session (((db.apply (.row (.replace written))).apply
      (.version ⟨edit.key, session, isoOf written.updatedAt⟩)).apply (.accepted edit)) edit := by
  refine ⟨fun later found => ?_, fun other different => ?_, rfl,
    fun _ member => List.mem_cons_of_mem _ member, fun entry member => ?_, ?_, carried⟩
  · have self : get SettingRow.key ((Change.replace written).apply SettingRow.key db.rows)
        written.key = some written := get_replace_self written (same ▸ read)
    rw [same, ← keyed] at self
    rw [← Option.some.inj (self.symm.trans found)]
    exact ⟨version, List.mem_cons_self⟩
  · exact get_replace_of_ne written fun equal => different (equal.trans (same.trans keyed.symm))
  · rcases List.mem_cons.mp member with rfl | old
    · exact Or.inr rfl
    · exact Or.inl old
  · rw [keyed, read, replaces, Option.map_some]

theorem editedBy_delete {row : SettingRow} (session : Nat) (edit : AcceptedEdit)
    (read : db.row? row.key = some row) (keyed : edit.key = row.key)
    (replaces : edit.replaced = some row.version) (carried : Carried db edit) :
    db.EditedBy session ((db.apply (.row (.delete row))).apply (.accepted edit)) edit := by
  refine ⟨fun later found => ?_, fun other different => ?_, rfl, fun _ => id, fun _ => Or.inl,
    ?_, carried⟩
  · have gone : get SettingRow.key ((Change.delete row).apply SettingRow.key db.rows) row.key =
        none := get_delete_self row
    rw [← keyed] at gone
    cases gone.symm.trans found
  · exact get_delete_of_ne row fun equal => different (equal.trans keyed.symm)
  · rw [keyed, read, replaces, Option.map_some]

end SettingsDb

def settingsContract : Contract SettingsDb SettingsLock where
  Good := SettingsDb.Traced
  Guarantee := SettingsDb.Respects

theorem SettingsDb.Respects.refl (session : Nat) (held : List SettingsLock) (db : SettingsDb) :
    Respects session held db db :=
  ⟨fun _ _ read _ => read, fun _ read _ => read, fun _ member => member, fun _ => Or.inl⟩

theorem settingsContract_steady : settingsContract.Steady settingsStore where
  drift _ _ traced := ⟨traced.current, fun edit member => (traced.carried edit member).mono
    fun _ => id, traced.gone, traced.once⟩
  close session held db traced := ⟨traced, SettingsDb.Respects.refl session held db⟩

section Programs

open Contract

variable {permits : Unit -> SettingsDb -> Prop} {session : Nat} {held : List SettingsLock}
  {key : String} {db : SettingsDb} {seen : SeenSetting}

/-- What an operator saw stands for a version there has been. -/
inductive SeenFrom (db : SettingsDb) (key : String) : SeenSetting -> Prop where
  | row (token version : Nat) (shown : ⟨key, version, token⟩ ∈ db.history) :
    SeenFrom db key ⟨some token, some version⟩
  | absent : SeenFrom db key ⟨none, none⟩

/-- The session has written nothing yet, and what it saw has been there. -/
structure Editing (session : Nat) (key : String) (seen : SeenSetting) (db : SettingsDb) : Prop where
  fresh : db.Fresh session
  seen : SeenFrom db key seen

theorem stable_fresh (session : Nat) (held : List SettingsLock) :
    Stable settingsContract settingsStore session held (SettingsDb.Fresh session) := by
  rintro before after fresh ⟨-, -, ⟨passed, rfl⟩ | ⟨other, theirs, different, -, respects⟩⟩
  · exact fresh
  · intro entry member
    rcases respects.own entry member with old | written
    · exact fresh entry old
    · rw [written]
      exact different

theorem stable_editing (session : Nat) (key : String) (seen : SeenSetting)
    (held : List SettingsLock) :
    Stable settingsContract settingsStore session held (Editing session key seen) := by
  intro before after editing disturbed
  refine ⟨stable_fresh session held before after editing.fresh disturbed, ?_⟩
  have grows : ∀ entry, entry ∈ before.history -> entry ∈ after.history := by
    rcases disturbed with ⟨-, -, ⟨passed, rfl⟩ | ⟨other, theirs, -, -, respects⟩⟩
    · exact fun _ => id
    · exact respects.grows
  cases editing.seen with
  | row token version shown => exact .row token version (grows _ shown)
  | absent => exact .absent

theorem stable_row {row : SettingRow} (locked : .row row.inserted ∈ held) :
    Stable settingsContract settingsStore session held fun db => db.row? key = some row := by
  rintro before after same ⟨-, -, ⟨passed, rfl⟩ | ⟨other, theirs, -, apart, respects⟩⟩
  · exact same
  · have free : .row row.inserted ∉ theirs := apart.not_mem locked (decide_eq_true rfl)
    exact respects.rows key row same free

theorem stable_absent (locked : .entry key ∈ held) :
    Stable settingsContract settingsStore session held fun db => db.row? key = none := by
  rintro before after same ⟨-, -, ⟨passed, rfl⟩ | ⟨other, theirs, -, apart, respects⟩⟩
  · exact same
  · exact respects.absent key same (apart.not_mem locked (decide_eq_true rfl))

theorem safe_thrown (now : SettingsDb) (_ : now.Traced) :
    settingsContract.Safe settingsStore permits session thrown [] [] now :=
  trivial

theorem safe_refused (held : List SettingsLock) (pending : List SettingsWrite) (now : SettingsDb) :
    settingsContract.Safe settingsStore permits session refused held pending now :=
  Safe.rollback (fun _ => True) (Stable.const _ _ _) trivial fun _ _ _ => trivial

theorem safe_lockPrior {next : Option SettingRow -> SettingsProgram}
    (editing : Editing session key seen db) (absent : ∀ now, Editing session key seen now -> ∀ held,
      settingsContract.Safe settingsStore permits session (next none) held [] now)
    (found : ∀ now row, Editing session key seen now -> now.row? key = some row ->
      settingsContract.Safe settingsStore permits session (next (some row))
        [.row row.inserted] [] now) :
    settingsContract.Safe settingsStore permits session (lockPrior key next) [] [] db := by
  refine Safe.reading _ (stable_editing _ _ _ _) editing safe_thrown fun now editing _ _ => ?_
  cases now.row? key with
  | none => exact absent now editing []
  | some row =>
    refine Safe.acquiring _ (stable_editing _ _ _ _) editing safe_thrown fun now editing _ _ => ?_
    cases prior : (now.row? key).filter fun prior => prior.inserted = row.inserted with
    | none => exact absent now editing _
    | some locked =>
      rcases Option.filter_eq_some_iff.mp prior with ⟨read, same⟩
      rw [← of_decide_eq_true same]
      exact found now locked editing read

theorem safe_edit (edit : AcceptedEdit) {writes : List SettingsWrite} {result : WriteResult}
    (P : SettingsDb -> Prop) (stable : Stable settingsContract settingsStore session held P)
    (editing : Editing session key seen db) (start : P db)
    (edited : ∀ now, Editing session key seen now -> now.Traced -> P now ->
      now.EditedBy session (settingsStore.applyAll now writes) edit ∧
        SettingsDb.Respects session held now (settingsStore.applyAll now writes)) :
    settingsContract.Safe settingsStore permits session
      (.commit thrown (.done result)) held writes db := by
  refine Safe.last _ ((stable_editing session key seen held).and stable) ⟨editing, start⟩ ?_
    (fun _ _ => trivial) safe_thrown
  rintro now ⟨editing, holds⟩ traced
  rcases edited now editing traced holds with ⟨done, respects⟩
  exact ⟨done.traced traced editing.fresh, respects⟩

theorem safe_insert {persisted : String} {startedAt : Nat} (editing : Editing session key seen db)
    (absent : seen.expectedUpdatedAt = none) (held : List SettingsLock) :
    settingsContract.Safe settingsStore permits session (.writing () [.entry key] thrown
        (fun own => if (own.row? key).isSome then [] else
          [.row (.insert ⟨key, persisted, startedAt, session, session⟩),
            .version ⟨key, session, isoOf startedAt⟩,
            .accepted ⟨session, key, seen.expectedUpdatedAt, seen.version, none⟩])
        fun own => if (own.row? key).isSome then refused
          else .commit thrown (.done (.ok (isoOf startedAt)))) held [] db := by
  refine Safe.writing _ (stable_editing _ _ _ _) editing safe_thrown fun now editing _ _ => ?_
  by_cases taken : (now.row? key).isSome = true
  · simp only [Store.applyAll_nil, taken, if_true]
    exact safe_refused _ _ now
  · have read : now.row? key = none := Option.not_isSome_iff_eq_none.mp taken
    simp only [Store.applyAll_nil, read, Option.isSome_none, Bool.false_eq_true, if_false]
    have locked : SettingsLock.entry key ∈ [.entry key] ++ held := List.mem_cons_self
    refine safe_edit ⟨session, key, seen.expectedUpdatedAt, seen.version, none⟩ _
      (stable_absent locked) editing read fun now editing _ read => ?_
    have edited := SettingsDb.editedBy_insert
      ⟨key, persisted, startedAt, session, session⟩
      ⟨session, key, seen.expectedUpdatedAt, seen.version, none⟩ read rfl rfl rfl
      (by
        cases editing.seen with
        | row => cases absent
        | absent => exact .absent rfl rfl rfl)
    refine ⟨edited, edited.respects (fun row found => ?_) fun _ => Or.inl locked⟩
    have never := read.symm.trans found
    cases never

theorem carried_of_seen {now : SettingsDb} {row : SettingRow} {token : Nat}
    (editing : Editing session key seen now) (traced : now.Traced)
    (read : now.row? key = some row) (sent : seen.expectedUpdatedAt = some token)
    (same : isoOf row.updatedAt = token) :
    now.Carried ⟨session, key, some token, seen.version, some row.version⟩ := by
  have current := traced.current key row read
  cases editing.seen with
  | row shownToken version shown =>
    injection sent with sent
    subst sent
    exact .token shownToken version row.version rfl rfl rfl shown (same ▸ current)
  | absent => cases sent

theorem safe_setOperatorSetting (schemas : SettingSchemas) (value : String)
    (editing : Editing session key seen db) : settingsContract.Safe settingsStore permits session
      (setOperatorSetting schemas session key value seen) [] [] db := by
  rw [setOperatorSetting]
  split
  · trivial
  · next validate _ =>
    split
    · trivial
    · next persisted _ =>
      refine Safe.reading _ (stable_editing _ _ _ _) editing safe_thrown
        fun begun editing _ _ => ?_
      refine safe_lockPrior editing (fun now editing held => ?_) fun now row editing read => ?_
      · simp only
        split
        · exact safe_refused _ _ now
        · next absent => exact safe_insert editing (not_not.mp absent) held
      · simp only
        split
        · exact safe_refused _ _ now
        · next expected =>
          split
          · exact safe_refused _ _ now
          · next sent =>
            have token : seen.expectedUpdatedAt = some (isoOf row.updatedAt) := not_not.mp sent
            have locked : SettingsLock.row row.inserted ∈ [] ++ [.row row.inserted] :=
              List.mem_cons_self
            refine Safe.writing _
              ((stable_editing session key seen _).and (stable_row List.mem_cons_self))
              ⟨editing, read⟩ safe_thrown fun now holds _ _ => ?_
            refine safe_edit
              ⟨session, key, seen.expectedUpdatedAt, seen.version, some row.version⟩ _
              (stable_row locked) holds.1 holds.2 fun now editing traced read => ?_
            have keyed : row.key = key := key_of_get read
            have edited := SettingsDb.editedBy_replace row
              { row with value := persisted, updatedAt := begun.clock, version := session }
              ⟨session, key, seen.expectedUpdatedAt, seen.version, some row.version⟩
              (keyed.symm ▸ read) rfl rfl keyed.symm rfl
              (token ▸ carried_of_seen editing traced read token rfl)
            refine ⟨edited, edited.respects (fun other found => ?_) fun none => ?_⟩
            · have same := read.symm.trans found
              exact Option.some.inj same ▸ locked
            · have never := read.symm.trans none
              cases never

theorem safe_deleteOperatorSetting (schemas : SettingSchemas) {token : Nat}
    (sent : seen.expectedUpdatedAt = some token) (editing : Editing session key seen db) :
    settingsContract.Safe settingsStore permits session
      (deleteOperatorSetting schemas session key token seen.version) [] [] db := by
  rw [deleteOperatorSetting]
  split
  · trivial
  · refine safe_lockPrior editing (fun now _ held => safe_refused _ _ now)
      fun now row editing read => ?_
    simp only
    split
    · exact safe_refused _ _ now
    · next shown =>
      have locked : SettingsLock.row row.inserted ∈ [] ++ [.row row.inserted] :=
        List.mem_cons_self
      refine Safe.writing _
        ((stable_editing session key seen _).and (stable_row List.mem_cons_self))
        ⟨editing, read⟩ safe_thrown fun now holds _ _ => ?_
      refine safe_edit ⟨session, key, some token, seen.version, some row.version⟩ _
        (stable_row locked) holds.1 holds.2 fun now editing traced read => ?_
      have keyed : row.key = key := key_of_get read
      have edited := SettingsDb.editedBy_delete session
        ⟨session, key, some token, seen.version, some row.version⟩
        (keyed.symm ▸ read) keyed.symm rfl
        (carried_of_seen editing traced read sent (not_not.mp shown))
      refine ⟨edited, edited.respects (fun other found => ?_) fun none => ?_⟩
      · have same := read.symm.trans found
        exact Option.some.inj same ▸ locked
      · have never := read.symm.trans none
        cases never

theorem safe_editSetting (schemas : SettingSchemas) (request : SettingRequest)
    (fresh : db.Fresh session) :
    settingsContract.Safe settingsStore permits session (editSetting schemas session request)
      [] [] db := by
  refine Safe.reading _ (stable_fresh _ _) fresh safe_thrown fun now fresh traced _ => ?_
  have editing : Editing session request.key (now.seen request.key) now := by
    refine ⟨fresh, ?_⟩
    rw [SettingsDb.seen]
    cases read : now.row? request.key with
    | none => exact .absent
    | some row => exact .row _ _ (traced.current _ row read)
  split
  · exact safe_setOperatorSetting schemas _ editing
  · simp only
    split
    · trivial
    · next token sent => exact safe_deleteOperatorSetting schemas sent editing

end Programs

theorem traced_opening : SettingsDb.Traced ⟨0, [], [], []⟩ where
  current _ _ read := by cases read
  carried _ member := by cases member
  gone _ member := by cases member
  once := List.Pairwise.nil

theorem fresh_opening (session : Nat) : SettingsDb.Fresh session ⟨0, [], [], []⟩ := by
  intro entry member
  cases member

/-- Where the versions of a setting are written in different seconds, a stale edit is
refused. -/
theorem none_lost {schemas : SettingSchemas} {requests : Nat -> SettingRequest}
    {last : SettingsState}
    (reached : Reaches settingsStore (fun _ _ => True) (settingsOpening schemas requests) last)
    (apart : SecondsApart last.db) : NoneLost last.db := by
  have sound : Contract.Sound settingsContract settingsStore (fun _ _ => True)
      (settingsOpening schemas requests) :=
    Contract.Sound.start traced_opening fun session =>
      safe_editSetting schemas (requests session) (fresh_opening session)
  have traced := (sound.reaches settingsContract_steady reached).1.good
  refine ⟨fun edit member => ?_, ?_⟩
  · cases traced.carried edit member with
    | token token read replaced carries seen replaces shown current =>
      have same : read = replaced := apart _ shown _ current rfl rfl
      rw [seen, replaces, same]
    | absent carries seen replaces => rw [seen, replaces]
  · refine traced.once.imp_of_mem fun {first second} one two distinct same carries equal => ?_
    cases traced.carried first one with
    | absent none => exact carries none
    | token token read replaced carriesFirst seen replaces shown current =>
      cases traced.carried second two with
      | absent none =>
        rw [carriesFirst, none] at equal
        cases equal
      | token other readOther replacedOther carriesSecond _ overOther _ currentOther =>
        rw [carriesFirst, carriesSecond] at equal
        injection equal with equal
        subst equal
        rw [← same] at currentOther
        have version := apart _ current _ currentOther rfl rfl
        refine distinct same (by rw [replaces]; exact Option.some_ne_none _) ?_
        rw [replaces, overOther]
        exact congrArg some version

private def threeEdits : Nat -> SettingRequest
  | 0 => ⟨"THRESHOLD", .set "1"⟩
  | 1 => ⟨"THRESHOLD", .set "2"⟩
  | _ => ⟨"THRESHOLD", .set "3"⟩

private def anyText : SettingSchemas := fun _ => some some

/-- The first edit makes the row, and the page is opened by two more operators, who save one
after the other. -/
private def savedInTurn (passed steps : Nat) : List (Event Nat Unit) :=
  Event.steps 0 5 () ++ [.drift passed] ++ Event.steps 1 1 () ++ Event.steps 2 1 () ++
    Event.steps 1 5 () ++ Event.steps 2 steps ()

/-- Saved in different seconds, the second of two edits of one page is refused. -/
theorem none_lost_seconds_apart : ∃ last : SettingsState,
      last.db.accepted.map AcceptedEdit.session = [1, 0] ∧ NoneLost last.db := by
  rcases exists_of_play settingsStore (settingsOpening anyText threeEdits) (savedInTurn 2000000 4)
    (fun db => db.accepted.map AcceptedEdit.session = [1, 0] ∧ SecondsApart db)
    (by decide +kernel) with ⟨last, reached, sessions, apart⟩
  exact ⟨last, sessions, none_lost reached apart⟩

/-- Within one second both go through, and the second overwrites what its editor has not
seen. -/
theorem setting_lost : ¬ ∀ (schemas : SettingSchemas) (requests : Nat -> SettingRequest)
        (last : SettingsState),
      Reaches settingsStore (fun _ _ => True) (settingsOpening schemas requests) last ->
        NoneLost last.db := by
  intro always
  rcases exists_of_play settingsStore (settingsOpening anyText threeEdits) (savedInTurn 0 5)
    (fun db => db.accepted.head? = some ⟨2, "THRESHOLD", some 0, some 0, some 1⟩)
    (by decide +kernel) with ⟨last, reached, stale⟩
  have current := (always _ _ last reached).current _ (List.mem_of_mem_head? stale)
  exact absurd current (by decide)

end Admin

end LevelChannel
