import LevelChannel.Scheduling.HeldUnits
import LevelChannel.Scheduling.Marking

namespace LevelChannel.Scheduling
namespace HeldUnits

open ReadCommitted Tables

/-!
# Statements on slots and their units

Every statement that leaves a lesson priced leaves its unit where it may be, and is lawful
by itself.  Cancelling a slot is not: the transaction is at work on the slot until it has
given the unit back.  And taking a unit needs a slot that the transaction has locked and
found booked.
-/

variable {takes : Nat -> Prop} {permits : Label -> Db -> Prop} {session : Nat}
  {held : List Lock} {pending : List Write} {db : Db}

theorem heldExcept_replace {own : Db} {old new : LessonSlot} {working : RowId -> Prop}
    (found : own.slot? new.id = some old)
    (priced : ¬ working new.id -> old.status.priced = true -> new.status.priced = true)
    (units : HeldExcept working own) : HeldExcept working (own.apply (.slot (.replace new))) := by
  intro slotId idle holding
  rcases units slotId idle holding with ⟨slot, read, was⟩
  have after := slot?_replace found slotId
  by_cases same : new.id = slotId
  · subst same
    rw [if_pos rfl] at after
    rw [found] at read
    exact ⟨new, after, priced idle (Option.some.inj read ▸ was)⟩
  · rw [if_neg same] at after
    exact ⟨slot, after.trans read, was⟩

theorem heldExcept_of_lapses {before after : Db} {working : RowId -> Prop}
    (slots : ∀ slotId, after.slot? slotId = before.slot? slotId)
    (lapses : ∀ slotId, Lapses (before.consumption? slotId) (after.consumption? slotId))
    (units : HeldExcept working before) : HeldExcept working after := by
  intro slotId idle holding
  rcases units slotId idle (holding.of_lapses (lapses slotId)) with ⟨slot, read, priced⟩
  exact ⟨slot, (slots slotId).trans read, priced⟩

theorem lawful_update {locks : List Lock} {own : Db} {slotId : RowId} {aside : List Write}
    {where_ : LessonSlot -> Bool} {set_ : LessonSlot -> LessonSlot}
    (elsewhere : ∀ more, (∀ lock, lock ∈ locks -> lock ∈ more) ->
      Fits store (Allows takes session more) own aside)
    (reads : (store.applyAll own aside).slots = own.slots ∧
      (store.applyAll own aside).consumptions = own.consumptions)
    (locked : WriteLocked locks (.slot slotId)) (id : ∀ slot, (set_ slot).id = slot.id)
    (priced : ∀ slot, where_ slot = true -> slot.status.priced = true ->
      (set_ slot).status.priced = true) (unmarked : takes session -> ∀ slot, where_ slot = true ->
      (set_ slot).status ≠ .noShowTeacher) : (discipline takes).Lawful session locks own
      (aside ++ slotUpdateWrites (own.slotUpdate slotId where_ set_)) := by
  intro units more wider
  have slots : ∀ id, (store.applyAll own aside).slot? id = own.slot? id := by
    intro id
    rw [Db.slot?, Db.slot?, reads.1]
  have still : Held (store.applyAll own aside) :=
    heldExcept_of_lapses slots (fun id => Or.inl (by
      rw [Db.consumption?, Db.consumption?, reads.2])) units
  cases update : own.slotUpdate slotId where_ set_ with
  | none =>
    rw [slotUpdateWrites, Option.toList_none, List.map_nil, List.append_nil]
    exact ⟨elsewhere more wider, still⟩
  | some versions =>
    rcases slotUpdate_eq_some update with ⟨found, key, chosen, made⟩
    have same : versions.2.id = slotId := by
      rw [made, LessonSlot.snapshotOnBook_id, id, key]
    have status : versions.2.status = (set_ versions.1).status := by
      rw [made, LessonSlot.snapshotOnBook_status]
    have read : (store.applyAll own aside).slot? versions.2.id = some versions.1 := by
      rw [slots, same, found]
    have allowed : Allows takes session more (store.applyAll own aside)
        (.slot (.replace versions.2)) := by
      refine ⟨same ▸ locked.mono wider, ⟨versions.1, read⟩, fun taking => ?_⟩
      rw [status]
      exact unmarked taking _ chosen
    refine ⟨Fits.append (elsewhere more wider) ⟨allowed, trivial⟩, ?_⟩
    rw [store.applyAll_append]
    refine heldExcept_replace read (fun _ was => ?_) still
    rw [status]
    exact priced _ chosen was

/-! ## Statements -/

theorem updateSlot_obeys {slotId : RowId} {where_ : Db -> LessonSlot -> Bool}
    {set_ : LessonSlot -> LessonSlot} {onError : Program} {next : Option LessonSlot -> Program}
    (id : ∀ slot, (set_ slot).id = slot.id)
    (priced : ∀ own slot, where_ own slot = true -> slot.status.priced = true ->
      (set_ slot).status.priced = true)
    (unmarked : takes session -> ∀ own slot, where_ own slot = true ->
      (set_ slot).status ≠ .noShowTeacher) (failed : (discipline takes).Obeys session onError)
    (went : ∀ updated, (discipline takes).Obeys session (next updated)) :
    (discipline takes).Obeys session (Program.updateSlot slotId where_ set_ onError next) := by
  apply Program.Obeys.query failed
  intro _ earlier
  split
  · exact went none
  · refine Program.Obeys.checked failed ?_ fun _ => went _
    intro own _
    have none_ : ∀ more, (∀ lock, lock ∈ [(LockTarget.slot slotId).forNoKeyUpdate] ->
        lock ∈ more) -> Fits store (Allows takes session more) own [] := fun _ _ => trivial
    exact lawful_update none_ ⟨rfl, rfl⟩ WriteLocked.head_noKeyUpdate id (priced own)
      (fun taking => unmarked taking own)

theorem setSlot_obeys {slotId : RowId} {set_ : LessonSlot -> LessonSlot} {next : Program}
    (idle : ¬ takes session) (id : ∀ slot, (set_ slot).id = slot.id)
    (priced : ∀ slot, slot.status.priced = true -> (set_ slot).status.priced = true)
    (went : (discipline takes).Obeys session next) :
    (discipline takes).Obeys session (Program.setSlot slotId set_ next) :=
  updateSlot_obeys id (fun _ slot _ => priced slot) (fun taking => absurd taking idle) trivial
    fun _ => went

theorem safe_afresh {program : Program} (obeys : (discipline takes).Obeys session program)
    (units : Held db) : (contract takes).Safe store permits session program [] [] db :=
  Discipline.safe_of_obeys obeys units (Discipline.Stands.start units trivial)

theorem safe_tail {program : Program} {fact : Db -> Prop} (units : Held db)
    (obeys : (discipline takes).Obeys session program)
    (stands : (discipline takes).Stands session held pending fact db) :
    (contract takes).Safe store permits session program held pending db :=
  Discipline.safe_of_obeys obeys units (stands.weaken fun _ both => ⟨both.1, trivial⟩)

theorem thrown_obeys : (discipline takes).Obeys session Program.thrown := trivial

theorem commit_obeys (reply : Reply) :
    (discipline takes).Obeys session (.commit Program.thrown (.done reply)) :=
  ⟨trivial, trivial⟩

theorem safe_query {fact : Db -> Prop} {next : Db -> Db -> Program}
    (loc : (discipline takes).Local session held fact)
    (start : (discipline takes).Stands session held pending fact db)
    (went : ∀ now, Held now -> (discipline takes).Stands session held pending fact now ->
      (contract takes).Safe store permits session (next now (store.applyAll now pending))
        held pending now) :
    (contract takes).Safe store permits session (Program.query Program.thrown next)
      held pending db := by
  refine Program.Safe.query _ (Discipline.Stands.stable loc) start (fun _ _ _ => trivial) ?_
  intro now stands units
  exact went now units stands

theorem local_true : (discipline takes).Local session held (fun _ => True) :=
  Discipline.Local.const (discipline takes) session held True

theorem safe_begin {next : Nat -> Program} (units : Held db) (went : ∀ now, Held now ->
      (contract takes).Safe store permits session (next now.clock) [] [] now) :
    (contract takes).Safe store permits session (Program.begin Program.thrown next) [] [] db :=
  safe_query local_true (Discipline.Stands.start units trivial) fun now units _ => went now units

theorem safe_dateNow {next : Nat -> Program} (units : Held db) (went : ∀ now, Held now ->
      (contract takes).Safe store permits session (next now.clock) [] [] now) :
    (contract takes).Safe store permits session (Program.dateNow Program.thrown next) [] [] db :=
  safe_begin units went

theorem safe_lockLearner {learner : UuidText} {next : Program} (units : Held db)
    (went : ∀ now, Held now ->
      (contract takes).Safe store permits session next [(AdvisoryKey.pkgConsume learner).lock]
        [] now) :
    (contract takes).Safe store permits session (Program.lockLearner learner next) [] [] db := by
  refine Program.Safe.locking _ (Discipline.Stands.stable local_true)
    (Discipline.Stands.start units trivial) (fun _ _ _ => trivial) ?_
  intro now _ units
  exact went now units

theorem safe_updateSlot {fact : Db -> Prop} {slotId : RowId}
    {where_ : Db -> LessonSlot -> Bool} {set_ : LessonSlot -> LessonSlot}
    {next : Option LessonSlot -> Program} (loc : (discipline takes).Local session held fact)
    (id : ∀ slot, (set_ slot).id = slot.id) (unmarked : ∀ slot, (set_ slot).status ≠ .noShowTeacher)
    (start : (discipline takes).Stands session held pending fact db)
    (missed : ∀ now more, Held now ->
      (discipline takes).Stands session (more ++ held) pending fact now ->
      (contract takes).Safe store permits session (next none) (more ++ held) pending now)
    (went : ∀ now own old new, Held now -> Held own -> fact own ->
      own.slot? slotId = some old -> where_ own old = true -> new = (set_ old).snapshotOnBook own.catalog -> new.id = slotId ->
      (discipline takes).Holds session ((LockTarget.slot slotId).forNoKeyUpdate :: held)
        (pending ++ [.slot (.replace new)])
        (fun after => after = own.apply (.slot (.replace new))) now ->
      (contract takes).Safe store permits session (next (some new))
        ((LockTarget.slot slotId).forNoKeyUpdate :: held) (pending ++ [.slot (.replace new)]) now) :
    (contract takes).Safe store permits session
      (Program.updateSlot slotId where_ set_ Program.thrown next) held pending db := by
  refine Program.Safe.query _ (Discipline.Stands.stable loc) start (fun _ _ _ => trivial) ?_
  intro now stands units
  split
  · exact missed now [] units stands
  · refine Program.Safe.checked _ (Discipline.Stands.stable loc) stands
      (fun _ _ _ => trivial) ?_
    intro now stands units accepted
    simp only [List.singleton_append]
    cases update : (store.applyAll now pending).slotUpdate slotId
        (where_ (store.applyAll now pending)) set_ with
    | none =>
      simp only [slotUpdateWrites, Option.toList_none, List.map_nil, List.append_nil,
        Option.map_none]
      exact missed now [_] units (stands.more [_])
    | some versions =>
      rcases slotUpdate_eq_some update with ⟨found, key, chosen, made⟩
      have same : versions.2.id = slotId := by
        rw [made, LessonSlot.snapshotOnBook_id, id, key]
      simp only [slotUpdateWrites, Option.toList_some, List.map_cons, List.map_nil,
        Option.map_some]
      refine went now _ versions.1 versions.2 units stands.2.1 stands.2.2 found chosen made same
        ?_
      refine (Discipline.Holds.more stands [_]).queue ⟨⟨?_, ⟨versions.1, ?_⟩, ?_⟩, trivial⟩ rfl
      · exact same ▸ WriteLocked.head_noKeyUpdate
      · rw [same, found]
      · rw [made, LessonSlot.snapshotOnBook_status]
        exact fun _ => unmarked versions.1

/-- The own view keeps the units where they may be but for one slot. -/
def Working (takes : Nat -> Prop) (session : Nat) (held : List Lock) (pending : List Write)
    (slotId : RowId) (db : Db) : Prop :=
  (discipline takes).Holds session held pending (HeldExcept (· = slotId)) db

theorem Working.stable {slotId : RowId} : (contract takes).Stable store session held
    (Working takes session held pending slotId) := by
  intro before after works disturbed
  have agree := agrees_of_disturbs disturbed
  exact ⟨(agrees_applyAll agree works.1).1,
    heldExcept_transfer disturbed.2.1 agree works.1 works.2⟩

theorem working_of_cancelled {own : Db} {old new : LessonSlot} {slotId : RowId}
    (units : Held own) (found : own.slot? slotId = some old) (same : new.id = slotId)
    (holds : (discipline takes).Holds session held pending
      (fun after => after = own.apply (.slot (.replace new))) db) :
    Working takes session held pending slotId db := by
  refine holds.weaken ?_
  rintro _ rfl
  exact heldExcept_replace (same ▸ found) (fun idle => absurd same idle) (units.except _)

theorem restored_held {own : Db} {slotId : RowId} (at_ : Nat) (actor : Actor)
    (reason : Option String) (units : HeldExcept (· = slotId) own) :
    let writes : List Write := match (own.consumption? slotId).filter PackageConsumption.active with
      | none => []
      | some row => [.consumption (.replace (row.restore at_ actor reason))]
    Fits store (Allows takes session held) own writes ∧ Held (store.applyAll own writes) := by
  intro writes
  cases active : (own.consumption? slotId).filter PackageConsumption.active with
  | none =>
    have nothing : writes = [] := by simp only [writes, active]
    rw [nothing]
    refine ⟨trivial, fun id _ holding => ?_⟩
    by_cases same : id = slotId
    · subst same
      rcases holding with ⟨row, read, inUse⟩
      have kept : (own.consumption? id).filter PackageConsumption.active = some row :=
        Option.filter_eq_some_iff.mpr ⟨read, inUse⟩
      rw [active] at kept
      cases kept
    · exact units id same holding
  | some row =>
    have made : writes = [.consumption (.replace (row.restore at_ actor reason))] := by
      simp only [writes, active]
    have returned : (row.restore at_ actor reason).active = false := rfl
    have found := (Option.filter_eq_some_iff.mp active).1
    have key : row.slotId = slotId := key_of_get found
    rw [made]
    refine ⟨⟨returned, trivial⟩, fun id _ holding => ?_⟩
    by_cases same : id = slotId
    · subst same
      rcases holding with ⟨other, read, inUse⟩
      have after := consumption?_replaced own (row.restore at_ actor reason) id
      have same : (row.restore at_ actor reason).slotId = id := key
      rw [found, Option.map_some, if_pos same] at after
      rw [← Option.some.inj (after.symm.trans read), returned] at inUse
      cases inUse
    · exact units id same (holding.of_lapses (lapses_replaced returned own id))

theorem safe_restorePackageConsumption {at_ : Nat} {slotId : RowId} {actor : Actor}
    {reason : Option String} {next : Option RowId -> Program}
    (went : ∀ now more restored, Held now ->
      (discipline takes).Stands session ([(LockTarget.consumption slotId).forNoKeyUpdate] ++ held)
        (pending ++ more) (fun _ => True) now ->
      (contract takes).Safe store permits session (next restored)
        ([(LockTarget.consumption slotId).forNoKeyUpdate] ++ held) (pending ++ more) now)
    (start : Working takes session held pending slotId db) :
    (contract takes).Safe store permits session
      (Program.restorePackageConsumption at_ slotId actor reason Program.thrown next)
      held pending db := by
  refine Program.Safe.execute _ Working.stable start (fun _ _ _ => trivial) ?_
  intro now works units
  have restored := @restored_held takes session
    ([(LockTarget.consumption slotId).forNoKeyUpdate] ++ held) _ slotId at_ actor reason works.2
  exact went now _ _ units
    ((Discipline.Holds.more works _).queue restored.1 ⟨restored.2, trivial⟩)

theorem safe_insertConsumption {slot : LessonSlot} {purchaseId : RowId} {actor : Actor}
    {next : Bool -> Program} (taking : takes session) (locked : WriteLocked held (.slot slot.id))
    (booked : slot.status = .booked)
    (went : ∀ created, (discipline takes).Obeys session (next created))
    (start : (discipline takes).Stands session held pending
      (fun own => own.slot? slot.id = some slot) db) :
    (contract takes).Safe store permits session
      (Program.insertConsumption (Program.newConsumption slot.id purchaseId actor)
        Program.thrown next) held pending db := by
  refine Program.Safe.checked _ (Discipline.Stands.stable (local_slot locked slot)) start
    (fun _ _ _ => trivial) ?_
  intro now stands units _
  split
  · rw [List.append_nil]
    exact safe_tail units (went _) (stands.more _)
  · have read := stands.2.2
    refine Discipline.safe_of_obeys (went _) units ?_
    refine (Discipline.Holds.more stands _).queue
      ⟨⟨locked.append _, taking, slot, read, booked⟩, trivial⟩ ⟨?_, trivial⟩
    intro id idle holding
    by_cases same : slot.id = id
    · exact ⟨slot, same ▸ read, by rw [booked]; rfl⟩
    · refine stands.2.1 id idle (holding.of_lapses (Or.inl ?_))
      have after := consumption?_inserted (store.applyAll now pending)
        (Program.newConsumption slot.id purchaseId actor) id
      have different : (Program.newConsumption slot.id purchaseId actor).slotId ≠ id := same
      rw [if_neg different, Option.or_none] at after
      exact after

theorem safe_lockFirst {slot : LessonSlot} {where_ : PackagePurchase -> Bool}
    {next : Option PackagePurchase -> Program} {ids : List RowId}
    (locked : WriteLocked held (.slot slot.id))
    (missed : (discipline takes).Obeys session (next none))
    (went : ∀ now more purchase, Held now -> WriteLocked (more ++ held) (.slot slot.id) ->
      (discipline takes).Stands session (more ++ held) pending
        (fun own => own.slot? slot.id = some slot) now ->
      (contract takes).Safe store permits session (next (some purchase)) (more ++ held) pending now)
    (units : Held db) (start : (discipline takes).Stands session held pending
      (fun own => own.slot? slot.id = some slot) db) :
    (contract takes).Safe store permits session
      (Program.lockFirst where_ Program.thrown next ids) held pending db := by
  induction ids generalizing held db with
  | nil => exact safe_tail units missed start
  | cons id rest extend =>
    refine Program.Safe.locking _ (Discipline.Stands.stable (local_slot locked slot)) start
      (fun _ _ _ => trivial) ?_
    intro now stands units
    have wider := locked.append [(LockTarget.purchase id).forUpdate]
    split
    · exact went now _ _ units wider (stands.more _)
    · refine extend wider ?_ units (stands.more _)
      intro now more purchase units locked stands
      rw [← List.append_assoc] at locked stands ⊢
      exact went now _ purchase units locked stands

theorem safe_consumePackageUnit {at_ : Nat} {accountId expectedTeacherId : RowId}
    {durationMinutes : Nat} {actor : Actor} {slot : LessonSlot} {next : Option RowId -> Program}
    (taking : takes session) (locked : WriteLocked held (.slot slot.id))
    (booked : slot.status = .booked)
    (went : ∀ consumed, (discipline takes).Obeys session (next consumed))
    (start : (discipline takes).Stands session held pending
      (fun own => own.slot? slot.id = some slot) db) :
    (contract takes).Safe store permits session
      (Program.consumePackageUnit at_ accountId slot.id durationMinutes actor expectedTeacherId
        Program.thrown next) held pending db := by
  apply safe_query (local_slot locked slot) start
  intro now units stands
  refine safe_lockFirst locked (went none) ?_ units stands
  intro now more purchase units locked stands
  exact safe_insertConsumption taking locked booked (fun _ => went _) stands

end HeldUnits
end LevelChannel.Scheduling
