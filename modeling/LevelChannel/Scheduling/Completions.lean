import LevelChannel.Scheduling.Units

namespace LevelChannel.Scheduling

open ReadCommitted Tables

/-!
# Writing completions

Inserting and deleting a completion move the slot in the same statement, by trigger, so
agreement survives either.  Changing the mark of a completion does not; the slot follows
in a statement of its own, and in between the transaction is at work on that slot.
-/

variable {terms : Terms} {permits : Label -> Db -> Prop} {session : Nat} {held : List Lock}
  {pending : List Write} {db : Db}

theorem flag_change_of_ne (change : Change LessonCompletion)
    (own : ∀ old, db.completion? change.row.id = some old -> old.slotId = change.row.slotId)
    (after : ∀ new, (db.apply (.completion change)).completion? change.row.id = some new ->
      new.slotId = change.row.slotId)
    {slotId : RowId} (different : slotId ≠ change.row.slotId) (id : RowId) :
    flag (db.apply (.completion change)) slotId id = flag db slotId id := by
  have silent : ∀ {state : Db},
      (∀ old, state.completion? change.row.id = some old ->
        old.slotId = change.row.slotId) -> flag state slotId change.row.id = none := by
    intro state same
    cases read : state.completion? change.row.id with
    | none => exact flag_of_none read
    | some old => exact flag_of_ne read fun clash => different (clash.symm.trans (same old read))
  by_cases key : id = change.row.id
  · rw [key, silent after, silent own]
  · have away : (db.apply (.completion change)).completion? id = db.completion? id :=
      get_apply_of_ne change key
    rw [flag, flag, away]

theorem recorded_of_read (inv : Inv terms db) {row : LessonCompletion}
    (read : db.completion? row.id = some row) : recorded db row.slotId = some row.wasNoShow := by
  rw [recorded, (completionOf?_eq_some inv).mpr ⟨read, rfl⟩, Option.map_some]

theorem recorded_insert (inv : Inv terms db) {row : LessonCompletion}
    (fresh : db.completion? row.id = none)
    (after : Inv terms (db.apply (.completion (.insert row)))) (slotId : RowId) :
    recorded (db.apply (.completion (.insert row))) slotId =
      if slotId = row.slotId then some row.wasNoShow else recorded db slotId := by
  have read : (db.apply (.completion (.insert row))).completion? row.id = some row := by
    rw [completion?_insert fresh, if_pos rfl]
  by_cases same : slotId = row.slotId
  · rw [if_pos same, same]
    exact recorded_of_read after read
  · rw [if_neg same]
    refine recorded_eq inv after (flag_change_of_ne (.insert row) ?_ ?_ same)
    · intro old found
      rw [Change.row, fresh] at found
      cases found
    · intro new found
      rw [Change.row, read] at found
      rw [← Option.some.inj found]
      rfl

theorem recorded_replace (inv : Inv terms db) {row old : LessonCompletion}
    (found : db.completion? row.id = some old) (revises : Revises old row)
    (after : Inv terms (db.apply (.completion (.replace row)))) (slotId : RowId) :
    recorded (db.apply (.completion (.replace row))) slotId =
      if slotId = row.slotId then some row.wasNoShow else recorded db slotId := by
  have read : (db.apply (.completion (.replace row))).completion? row.id = some row := by
    rw [completion?_replace found, if_pos rfl]
  by_cases same : slotId = row.slotId
  · rw [if_pos same, same]
    exact recorded_of_read after read
  · rw [if_neg same]
    refine recorded_eq inv after (flag_change_of_ne (.replace row) ?_ ?_ same)
    · intro before readBefore
      rw [Change.row, found] at readBefore
      rw [← Option.some.inj readBefore]
      exact revises.slotId.symm
    · intro new readNew
      rw [Change.row, read] at readNew
      rw [← Option.some.inj readNew]
      rfl

theorem recorded_delete (inv : Inv terms db) {row : LessonCompletion}
    (found : db.completion? row.id = some row) (slotId : RowId) :
    recorded (db.apply (.completion (.delete row))) slotId =
      if slotId = row.slotId then none else recorded db slotId := by
  have after : Inv terms (db.apply (.completion (.delete row))) := deleteCompletion_inv inv
  have absent : (db.apply (.completion (.delete row))).completion? row.id = none := by
    rw [completion?_delete, if_pos rfl]
  by_cases same : slotId = row.slotId
  · rw [if_pos same]
    cases read : (db.apply (.completion (.delete row))).completionOf? slotId with
    | none => rw [recorded, read, Option.map_none]
    | some other =>
      rcases (completionOf?_eq_some after).mp read with ⟨readOther, own⟩
      have different : row.id ≠ other.id := by
        intro clash
        rw [← clash, absent] at readOther
        cases readOther
      rw [completion?_delete, if_neg different] at readOther
      have first := (completionOf?_eq_some inv).mpr ⟨readOther, own⟩
      have second := (completionOf?_eq_some inv).mpr ⟨found, same.symm⟩
      exact absurd (congrArg LessonCompletion.id (Option.some.inj (second.symm.trans first)))
        different
  · rw [if_neg same]
    refine recorded_eq inv after (flag_change_of_ne (.delete row) ?_ ?_ same)
    · intro old readOld
      rw [Change.row, found] at readOld
      rw [← Option.some.inj readOld]
      rfl
    · intro new readNew
      rw [Change.row, absent] at readNew
      cases readNew

theorem completionApply_eq {own : Db} {now : Nat} {row : LessonCompletion} {slot : LessonSlot}
    (found : own.slot? row.slotId = some slot) (booked : slot.status = .booked) :
    own.completionApply now row = some (slot,
      ({ slot with
          status := outcomeStatus row.wasNoShow
          updatedAt := now } : LessonSlot).snapshotOnBook own.catalog) := by
  simp [Db.completionApply, Db.slotUpdate, found, Option.filter, booked]

theorem lawful_insertCompletion {own : Db} {now : Nat} {row : LessonCompletion}
    {slot : LessonSlot} (found : own.slot? row.slotId = some slot)
    (booked : slot.status = .booked) (fresh : own.completion? row.id = none)
    (free : own.completionOf? row.slotId = none) :
    (discipline terms).Lawful session (Program.insertCompletionLocks row) own
      (.completion (.insert row) :: slotUpdateWrites (own.completionApply now row)) := by
  intro good held wider
  have key : slot.id = row.slotId := key_of_get found
  have slotLocked : WriteLocked held (.slot row.slotId) :=
    ⟨(LockTarget.slot row.slotId).forNoKeyUpdate, wider _ (by simp [Program.insertCompletionLocks]),
      rfl, Or.inl rfl⟩
  have locked : WriteLocked held (.completion row.id) :=
    WriteLocked.of_mem (wider _ (by simp [Program.insertCompletionLocks]))
  have allowed : Allows terms held own (.completion (.insert row)) :=
    ⟨locked, slotLocked, fresh, free, by rw [found]; rfl⟩
  have first := (allowed.kept good.inv).1
  rw [completionApply_eq found booked]
  let moved : LessonSlot :=
    { slot with
      status := outcomeStatus row.wasNoShow
      updatedAt := now }
  let new := moved.snapshotOnBook own.catalog
  have id : new.id = slot.id := moved.snapshotOnBook_id own.catalog
  have status : new.status = outcomeStatus row.wasNoShow := moved.snapshotOnBook_status own.catalog
  have notOpen : moved.status ≠ .open := by
    simp only [moved, outcomeStatus]
    split <;> simp
  have plain : SlotStep slot moved :=
    ⟨rfl, rfl, Or.inr rfl, fun reopened => absurd reopened notOpen⟩
  have step : SlotStep slot new := plain.snapshot own.catalog
  have readSlot : (own.apply (.completion (.insert row))).slot? new.id = some slot := by
    rw [id, key]
    exact found
  refine ⟨⟨allowed, ⟨by rw [id, key]; exact slotLocked, slot, readSlot, step⟩, trivial⟩,
    replaceSlot_inv first readSlot step, ?_, good.since⟩
  intro other member lesson
  rcases mem_replace member with rfl | ⟨listed, different⟩
  · refine (congrArg outcome status).trans ?_
    refine Eq.trans ?_ (recorded_insert good.inv fresh first new.id).symm
    rw [if_pos (id.trans key), outcome_outcomeStatus]
  · refine (good.agree other listed lesson).trans ?_
    refine Eq.trans ?_ (recorded_insert good.inv fresh first other.id).symm
    rw [if_neg]
    intro clash
    exact different (clash.trans (key.symm.trans id.symm))

theorem completionRevert_eq {own : Db} {now : Nat} {row : LessonCompletion} {slot : LessonSlot}
    {marked : Bool} (found : own.slot? row.slotId = some slot)
    (billed : outcome slot.status = some marked) : own.completionRevert now row = some (slot,
      ({ slot with
          status := .booked
          updatedAt := now } : LessonSlot).snapshotOnBook own.catalog) := by
  have either : slot.status = .completed ∨ slot.status = .noShowLearner := by
    cases status : slot.status <;> simp [status, outcome] at billed ⊢
  rcases either with status | status <;>
    simp [Db.completionRevert, Db.slotUpdate, found, Option.filter, status]

theorem completionDeleteGuard_none {own : Db} {row : LessonCompletion}
    (passed : own.completionDeleteGuard row = none) :
    row.immutableAt = none ∧ own.covered row.id = false := by
  rw [Db.completionDeleteGuard] at passed
  cases stamp : row.immutableAt with
  | some at_ => simp [stamp] at passed
  | none =>
    cases settled : own.covered row.id with
    | false => exact ⟨rfl, rfl⟩
    | true => simp [stamp, settled] at passed

abbrev deleteLocks (row : LessonCompletion) : List Lock :=
  [(LockTarget.completion row.id).forUpdate, (LockTarget.completionOfSlot row.slotId).forUpdate,
    (LockTarget.slot row.slotId).forNoKeyUpdate]

abbrev deleteWrites (begunAt judgedAt : Nat) (row : LessonCompletion) (own : Db) : List Write :=
  .erasure ⟨row, begunAt, judgedAt⟩ :: .completion (.delete row) ::
    slotUpdateWrites (own.completionRevert begunAt row)

theorem reverted_step {own : Db} {now : Nat} {row : LessonCompletion}
    {versions : LessonSlot × LessonSlot} (update : own.completionRevert now row = some versions) :
    own.slot? row.slotId = some versions.1 ∧ versions.1.id = row.slotId ∧
      versions.2.id = row.slotId ∧ versions.2.status = .booked ∧
      SlotStep versions.1 versions.2 := by
  rcases slotUpdate_eq_some update with ⟨found, key, -, made⟩
  rw [made]
  refine ⟨found, key, (LessonSlot.snapshotOnBook_id _ _).trans key,
    LessonSlot.snapshotOnBook_status _ _, ?_⟩
  have plain : SlotStep versions.1
      { versions.1 with
        status := .booked
        updatedAt := now } :=
    ⟨rfl, rfl, Or.inr rfl, fun reopened => by cases reopened⟩
  exact plain.snapshot own.catalog

theorem lawful_deleteCompletion {own : Db} {begunAt judgedAt : Nat} {row : LessonCompletion}
    (found : own.completion? row.id = some row) (timely : Timely terms ⟨row, begunAt, judgedAt⟩)
    (passed : own.completionDeleteGuard row = none) :
    (discipline terms).Lawful session (deleteLocks row) own
      (deleteWrites begunAt judgedAt row own) := by
  intro good held wider
  rcases completionDeleteGuard_none passed with ⟨unstamped, uncovered⟩
  have lock : (LockTarget.completion row.id).forUpdate ∈ held := wider _ (by simp)
  have slotLocked : WriteLocked held (.slot row.slotId) :=
    ⟨(LockTarget.slot row.slotId).forNoKeyUpdate, wider _ (by simp), rfl, Or.inl rfl⟩
  let noted := own.apply (.erasure ⟨row, begunAt, judgedAt⟩)
  have allowed : Allows terms held noted (.completion (.delete row)) :=
    ⟨lock, slotLocked, found, uncovered, unstamped, ⟨row, begunAt, judgedAt⟩,
      List.mem_append_right _ List.mem_cons_self, timely, rfl⟩
  have invNoted : Inv terms noted := inv_of_same good.inv rfl rfl rfl rfl
  have deleted := (allowed.kept invNoted).1
  have said : ∀ slotId, recorded (noted.apply (.completion (.delete row))) slotId =
      if slotId = row.slotId then none else recorded own slotId :=
    recorded_delete invNoted found
  unfold deleteWrites
  cases update : own.completionRevert begunAt row with
  | none =>
    refine ⟨⟨trivial, allowed, trivial⟩, deleted, ?_, good.since⟩
    intro other member lesson
    refine (good.agree other member lesson).trans ?_
    refine Eq.trans ?_ (said other.id).symm
    split
    · rename_i same
      -- the slot would have been billed, and the trigger would have reached it
      have billed : outcome other.status = some row.wasNoShow := by
        rw [← recorded_of_read good.inv found, ← same]
        exact good.agree other member lesson
      have read : own.slot? row.slotId = some other :=
        same ▸ get_of_mem good.inv.slotUnique member
      rw [completionRevert_eq read billed] at update
      cases update
    · rfl
  | some versions =>
    rcases reverted_step update with ⟨read, key, id, status, step⟩
    have readSlot : (noted.apply (.completion (.delete row))).slot? versions.2.id =
        some versions.1 := id ▸ read
    refine ⟨⟨trivial, allowed, ⟨id ▸ slotLocked, versions.1, readSlot, step⟩, trivial⟩,
      replaceSlot_inv deleted readSlot step, ?_, good.since⟩
    intro other member lesson
    rcases mem_replace member with rfl | ⟨listed, different⟩
    · refine (congrArg outcome status).trans ?_
      refine Eq.trans ?_ (said versions.2.id).symm
      rw [if_pos id]
      rfl
    · refine (good.agree other listed lesson).trans ?_
      refine Eq.trans ?_ (said other.id).symm
      rw [if_neg]
      intro clash
      exact different (clash.trans id.symm)

theorem safe_deleteCompletion {begunAt judgedAt : Nat} {row : LessonCompletion}
    {onError next : Program} {onRaise : String -> Program} {fact : Db -> Prop}
    (timely : Timely terms ⟨row, begunAt, judgedAt⟩)
    (locked : WriteLocked held (.completion row.id))
    (loc : (discipline terms).Local session held fact)
    (failed : (discipline terms).Obeys session onError)
    (raised : ∀ message, (discipline terms).Obeys session (onRaise message))
    (went : ∀ now own, Good terms now -> Good terms own -> fact own ->
      own.completion? row.id = some row ->
      (discipline terms).Stands session (deleteLocks row ++ held)
        (pending ++ deleteWrites begunAt judgedAt row own)
        (fun after => after = store.applyAll own (deleteWrites begunAt judgedAt row own)) now ->
      (contract terms).Safe store permits session next (deleteLocks row ++ held)
        (pending ++ deleteWrites begunAt judgedAt row own) now)
    (start : (discipline terms).Stands session held pending
      (fun own => own.completion? row.id = some row ∧ fact own) db) :
    (contract terms).Safe store permits session
      (Program.deleteCompletion begunAt judgedAt row onError onRaise next) held pending db := by
  refine Program.Safe.checkedOr _
    (Discipline.Stands.stable ((local_completion locked (some row)).and loc)) start
    (fun _ _ good => safe_afresh failed good)
    (fun message _ _ good => safe_afresh (raised message) good) ?_
  intro now stands good accepted
  have found := stands.2.2.1
  have passed : (store.applyAll now pending).completionDeleteGuard row = none := by
    cases guard : (store.applyAll now pending).completionDeleteGuard row with
    | none => rfl
    | some message => simp [found, guard] at accepted
  simp only [found]
  exact went now _ good stands.2.1 stands.2.2.2 found
    (stands.queue (lawful_deleteCompletion found timely passed) rfl)

end LevelChannel.Scheduling
