import LevelChannel.Scheduling.Rules
import LevelChannel.Packages.Grants
import LevelChannel.Lessons.Lifecycle

namespace LevelChannel.Scheduling

open ReadCommitted Tables

/-!
# Statements on slots and packages

The statements the routes are composed of, each shown to be lawful on whatever view it
finds.  Programs composed of nothing else obey the discipline.
-/

variable {terms : Terms} {session : Nat} {held : List Lock} {db : Db}

theorem Good.of_same {before after : Db} (good : Good terms before) (inv : Inv terms after)
    (slots : after.slots = before.slots) (completions : after.completions = before.completions)
    (clock : after.clock = before.clock) : Good terms after where
  inv := inv
  agree := by
    rw [slots]
    intro slot member lesson
    have agree := good.agree slot member lesson
    rwa [Agree, recorded, Db.completionOf?, completions]
  since := by
    rw [clock]
    exact good.since

theorem lawful_of_fits {locks : List Lock} {own : Db} {writes : List Write}
    (fits : Good terms own -> Fits store (Allows terms locks) own writes)
    (away : ∀ write, write ∈ writes -> write.table ≠ .slots ∧ write.table ≠ .completions) :
    (discipline terms).Lawful session locks own writes := by
  intro good held wider
  have made := fits good
  refine ⟨made.mono fun _ _ => Allows.widen wider, ?_⟩
  exact good.of_same (inv_applyAll good.inv made)
    (slots_applyAll (fun write member => (away write member).1) own)
    (completions_applyAll (fun write member => (away write member).2) own)
    (clock_applyAll good.inv made)

theorem lawful_quiet {writes : List Write} (quiet : ∀ write, write ∈ writes -> Quiet write)
    (locks : List Lock) (own : Db) : (discipline terms).Lawful session locks own writes := by
  intro good held wider
  induction writes generalizing own with
  | nil => exact ⟨trivial, good⟩
  | cons write writes extend =>
    have first := quiet write List.mem_cons_self
    have same := first.same own
    have allowed : Allows terms held own write := by
      cases write <;> first | trivial | exact absurd first (by simp [Quiet, Write.table])
    have after := good.of_same (allowed.kept good.inv).1 same.slots same.completions same.clock
    have rest := extend (fun other member => quiet other (List.mem_cons_of_mem _ member))
      (own.apply write) after
    exact ⟨⟨allowed, rest.1⟩, rest.2⟩

theorem same_applyAll {writes : List Write} (quiet : ∀ write, write ∈ writes -> Quiet write)
    (db : Db) : Same db (store.applyAll db writes) := by
  induction writes generalizing db with
  | nil => exact ⟨rfl, rfl, rfl, rfl, rfl, rfl, rfl⟩
  | cons write writes extend =>
    have first := (quiet write List.mem_cons_self).same db
    have rest := extend (fun other member => quiet other (List.mem_cons_of_mem _ member))
      (db.apply write)
    exact ⟨rest.slots.trans first.slots, rest.completions.trans first.completions,
      rest.covered.trans first.covered, rest.erasures.trans first.erasures,
      rest.purchases.trans first.purchases, rest.consumptions.trans first.consumptions,
      rest.clock.trans first.clock⟩

theorem idle_quiet {writes : List Write} (quiet : ∀ write, write ∈ writes -> Quiet write)
    (db : Db) : (discipline terms).Idle session db writes := by
  intro good
  have lawful : (discipline terms).Lawful session [] db writes := lawful_quiet quiet [] db
  have same := same_applyAll quiet db
  refine ⟨(lawful good [] (by simp)).2, fun held => ⟨same.guarantee, ?_⟩⟩
  exact Same.agrees same.slots same.completions same.covered same.erasures same.purchases
    same.consumptions (Nat.le_of_eq same.clock.symm)

theorem lawful_restore {locks : List Lock} {own : Db} {writes : List Write}
    (each : ∀ write, write ∈ writes -> ∃ row old, write = .consumption (.replace row) ∧
      WriteLocked locks (.consumption row.slotId) ∧ own.consumption? row.slotId = some old ∧
      row.packagePurchaseId = old.packagePurchaseId ∧ row.active = false) :
    (discipline terms).Lawful session locks own writes := by
  refine lawful_of_fits (fun _ => Fits.of_pairwise ?_ ?_) ?_
  · refine List.pairwise_of_forall_mem_list ?_
    intro first memberFirst second memberSecond db one two
    rcases each first memberFirst with ⟨row, -, rfl, -⟩
    rcases each second memberSecond with ⟨other, -, rfl, -⟩
    rcases one with ⟨-, old, found, same, -⟩
    rcases two with ⟨locked, older, foundOther, alike, restored⟩
    refine ⟨locked, ?_⟩
    by_cases own : row.slotId = other.slotId
    · have first : older = old := by
        rw [← own, found] at foundOther
        exact (Option.some.inj foundOther).symm
      exact ⟨row, by rw [store_apply, consumption?_replace found, if_pos own],
        by rw [alike, first, same], restored⟩
    · exact ⟨older, by rw [store_apply, consumption?_replace found, if_neg own, foundOther],
        alike, restored⟩
  · intro write member
    rcases each write member with ⟨row, old, rfl, locked, found, same, restored⟩
    exact ⟨locked, old, found, same, restored⟩
  · intro write member
    rcases each write member with ⟨row, old, rfl, -⟩
    simp [Write.table]

theorem lawful_restoreOne (now : Nat) (slotId : RowId) (actor : Actor) (reason : Option String)
    (own : Db) :
    (discipline terms).Lawful session [(LockTarget.consumption slotId).forNoKeyUpdate] own
      (match (own.consumption? slotId).filter PackageConsumption.active with
        | none => []
        | some row => [.consumption (.replace (row.restore now actor reason))]) := by
  refine lawful_restore ?_
  intro write member
  split at member
  · cases member
  · rename_i row found
    have read := Option.filter_eq_some_iff.mp found
    have key : row.slotId = slotId := key_of_get read.1
    rw [List.mem_singleton.mp member]
    exact ⟨row.restore now actor reason, row, rfl, key ▸ WriteLocked.head_noKeyUpdate,
      key ▸ read.1, rfl, rfl⟩

theorem restorePackageConsumption_obeys {now : Nat} {slotId : RowId} {actor : Actor}
    {reason : Option String} {onError : Program} {next : Option RowId -> Program}
    (failed : (discipline terms).Obeys session onError)
    (went : ∀ restored, (discipline terms).Obeys session (next restored)) :
    (discipline terms).Obeys session
      (Program.restorePackageConsumption now slotId actor reason onError next) :=
  Program.Obeys.execute failed (lawful_restoreOne now slotId actor reason) fun _ => went _

theorem restoreAllConsumptionsForPurchase_obeys {now : Nat} {purchaseId : RowId} {actor : Actor}
    {reason : Option String} {onError next : Program}
    (failed : (discipline terms).Obeys session onError)
    (went : (discipline terms).Obeys session next) : (discipline terms).Obeys session
      (Program.restoreAllConsumptionsForPurchase now purchaseId actor reason onError next) := by
  refine Program.Obeys.execute failed ?_ fun _ => Program.Obeys.query failed fun _ earlier => ?_
  · intro own
    split
    · exact Discipline.Lawful.nothing _ _
    · rename_i row found
      refine lawful_of_fits (fun _ => ⟨⟨?_, row, ?_, rfl, fun _ => rfl⟩, trivial⟩)
        (by simp [Write.table])
      · exact (key_of_get found : row.id = purchaseId) ▸ WriteLocked.head_noKeyUpdate
      · exact (key_of_get found : row.id = purchaseId) ▸ found
  · refine Program.Obeys.execute failed ?_ fun _ => went
    intro own
    refine lawful_restore ?_
    intro write member
    rcases List.mem_filterMap.mp member with ⟨candidate, listed, made⟩
    split at made
    · cases made
    · rename_i row found
      split at made
      · have key : row.slotId = candidate.slotId := key_of_get found
        refine ⟨row.restore now actor reason, row, (Option.some.inj made).symm, ?_, ?_, rfl, rfl⟩
        · refine ⟨_, List.mem_map.mpr ⟨candidate, listed, rfl⟩, ?_, Or.inl rfl⟩
          simp only [LockTarget.forNoKeyUpdate, PackageConsumption.restore, key]
        · simpa only [PackageConsumption.restore, key] using found
      · cases made

theorem createPackagePurchase_obeys {row : PackagePurchase} {onError : Program}
    {next : Bool -> Program} (failed : (discipline terms).Obeys session onError)
    (went : ∀ created, (discipline terms).Obeys session (next created)) :
    (discipline terms).Obeys session (Program.createPackagePurchase row onError next) := by
  refine Program.Obeys.checked failed ?_ fun _ => went _
  intro own accepted
  split
  · exact Discipline.Lawful.nothing _ _
  · rename_i unused
    refine lawful_of_fits (fun _ => ⟨⟨WriteLocked.head_update, ?_⟩, trivial⟩)
      (by simp [Write.table])
    simp only [Option.not_isSome_iff_eq_none] at unused
    simp only [unused, Option.isNone_none, Bool.true_and, Bool.or_eq_false_iff,
      Option.isSome_eq_false_iff, Option.isNone_iff_eq_none] at accepted
    exact accepted.1

theorem insertOrder_obeys {row : PaymentOrder} {onError onDuplicate next : Program}
    (failed : (discipline terms).Obeys session onError)
    (duplicate : (discipline terms).Obeys session onDuplicate)
    (went : (discipline terms).Obeys session next) :
    (discipline terms).Obeys session (Program.insertOrder row onError onDuplicate next) :=
  Program.Obeys.checkedOr failed (fun _ => duplicate)
    (fun own _ => lawful_quiet (by simp [Quiet, Write.table]) _ own) fun _ => went

theorem allocatePackage_obeys {invoiceId : InvoiceId} {purchaseId : RowId} {amountKopecks : Nat}
    {onError next : Program} (failed : (discipline terms).Obeys session onError)
    (went : (discipline terms).Obeys session next) : (discipline terms).Obeys session
      (Program.allocatePackage invoiceId purchaseId amountKopecks onError next) :=
  Program.Obeys.execute failed
    (fun own => lawful_quiet (by simp [Quiet, Write.table]) _ own) fun _ => went

/-! ## Slots -/

/-- A new version of a slot that leaves it in agreement with its completion. -/
structure Tidies (own : Db) (old new : LessonSlot) : Prop where
  id : new.id = old.id
  step : SlotStep old new
  agree : new.isPersonalEvent = false -> outcome new.status = recorded own old.id

theorem Tidies.of_status {own : Db} (good : Good terms own) {old new : LessonSlot}
    (found : own.slot? old.id = some old) (id : new.id = old.id)
    (personal : new.isPersonalEvent = old.isPersonalEvent) (step : SlotStep old new)
    (status : new.status = old.status) : Tidies own old new where
  id := id
  step := step
  agree lesson := by
    rw [status]
    exact good.agree old (mem_of_get found) (personal ▸ lesson)

theorem recorded_of_status {own : Db} (good : Good terms own) {slot : LessonSlot}
    (found : own.slot? slot.id = some slot) (lesson : slot.isPersonalEvent = false)
    (unbilled : outcome slot.status = none) : recorded own slot.id = none :=
  (good.agree slot (mem_of_get found) lesson).symm.trans unbilled

@[simp] theorem snapshotOnBook_teacherAccountId (catalog : Catalog) (row : LessonSlot) :
    (row.snapshotOnBook catalog).teacherAccountId = row.teacherAccountId := by
  rw [LessonSlot.snapshotOnBook]
  split <;> rfl

@[simp] theorem snapshotOnBook_durationMinutes (catalog : Catalog) (row : LessonSlot) :
    (row.snapshotOnBook catalog).durationMinutes = row.durationMinutes := by
  rw [LessonSlot.snapshotOnBook]
  split <;> rfl

@[simp] theorem snapshotOnBook_learnerAccountId (catalog : Catalog) (row : LessonSlot) :
    (row.snapshotOnBook catalog).learnerAccountId = row.learnerAccountId := by
  rw [LessonSlot.snapshotOnBook]
  split <;> rfl

theorem SlotStep.snapshot {old new : LessonSlot} (step : SlotStep old new) (catalog : Catalog) :
    SlotStep old (new.snapshotOnBook catalog) where
  teacherAccountId := by simpa using step.teacherAccountId
  durationMinutes := by simpa using step.durationMinutes
  learnerAccountId := by simpa using step.learnerAccountId
  reopened := by simpa using step.reopened

theorem Tidies.snapshot {own : Db} {old new : LessonSlot} (tidies : Tidies own old new)
    (catalog : Catalog) : Tidies own old (new.snapshotOnBook catalog) where
  id := by simpa using tidies.id
  step := tidies.step.snapshot catalog
  agree := by simpa using tidies.agree

theorem replaceSlot_good {own : Db} (good : Good terms own) {old new : LessonSlot}
    (found : own.slot? old.id = some old) (tidies : Tidies own old new) :
    Good terms (own.apply (.slot (.replace new))) := by
  have read : own.slot? new.id = some old := tidies.id ▸ found
  refine ⟨replaceSlot_inv good.inv read tidies.step, ?_, good.since⟩
  intro slot member lesson
  rcases mem_replace member with rfl | ⟨listed, -⟩
  · have agree := tidies.agree lesson
    rw [← tidies.id] at agree
    exact agree
  · exact good.agree slot listed lesson

theorem lawful_replaceSlot {locks : List Lock} {own : Db} {old new : LessonSlot}
    (locked : WriteLocked locks (.slot old.id)) (found : own.slot? old.id = some old)
    (tidies : Good terms own -> Tidies own old new) :
    (discipline terms).Lawful session locks own [.slot (.replace new)] := by
  intro good held wider
  have tidy := tidies good
  refine ⟨⟨⟨?_, old, ?_, tidy.step⟩, trivial⟩, replaceSlot_good good found tidy⟩
  · rw [tidy.id]
    exact locked.mono wider
  · rw [tidy.id]
    exact found

theorem slotUpdate_eq_some {own : Db} {slotId : RowId} {where_ : LessonSlot -> Bool}
    {set_ : LessonSlot -> LessonSlot} {old new : LessonSlot}
    (update : own.slotUpdate slotId where_ set_ = some (old, new)) :
    own.slot? slotId = some old ∧ old.id = slotId ∧ where_ old = true ∧
      new = (set_ old).snapshotOnBook own.catalog := by
  simp only [Db.slotUpdate, Option.map_eq_some_iff, Option.filter_eq_some_iff, Prod.mk.injEq]
    at update
  rcases update with ⟨row, ⟨found, chosen⟩, rfl, rfl⟩
  exact ⟨found, key_of_get found, chosen, rfl⟩

theorem updateSlot_obeys {slotId : RowId} {where_ : Db -> LessonSlot -> Bool}
    {set_ : LessonSlot -> LessonSlot} {onError : Program} {next : Option LessonSlot -> Program}
    (tidies : ∀ own old, Good terms own -> own.slot? old.id = some old ->
      where_ own old = true -> Tidies own old (set_ old))
    (failed : (discipline terms).Obeys session onError)
    (went : ∀ updated, (discipline terms).Obeys session (next updated)) :
    (discipline terms).Obeys session (Program.updateSlot slotId where_ set_ onError next) := by
  apply Program.Obeys.query failed
  intro _ earlier
  split
  · exact went none
  · refine Program.Obeys.checked failed ?_ fun _ => went _
    intro own _
    show (discipline terms).Lawful session _ own
      (slotUpdateWrites (own.slotUpdate slotId (where_ own) set_))
    cases update : own.slotUpdate slotId (where_ own) set_ with
    | none => exact Discipline.Lawful.nothing _ _
    | some versions =>
      rcases slotUpdate_eq_some update with ⟨found, key, chosen, made⟩
      subst key
      apply lawful_replaceSlot WriteLocked.head_noKeyUpdate found
      intro good
      rw [made]
      exact (tidies own versions.1 good found chosen).snapshot own.catalog

theorem insertBookedSlot_lawful {own : Db} {row : LessonSlot} (minted : row.id.minter.isSome)
    (booked : outcome row.status = none) (fresh : own.slot? row.id = none)
    {locks : List Lock} (locked : WriteLocked locks (.slot row.id)) :
    (discipline terms).Lawful session locks own [.slot (.insert row)] := by
  intro good held wider
  refine ⟨⟨⟨locked.mono wider, minted, fresh⟩, trivial⟩,
    insertSlot_inv good.inv fresh, ?_, good.since⟩
  intro slot member lesson
  rcases (mem_insert LessonSlot.id).mp member with old | rfl
  · exact good.agree slot old lesson
  · exact booked.trans (recorded_of_absent good.inv fresh).symm

end LevelChannel.Scheduling
