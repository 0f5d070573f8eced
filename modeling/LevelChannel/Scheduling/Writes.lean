import LevelChannel.Scheduling.Contract

namespace LevelChannel.Scheduling

open ReadCommitted Tables

/-!
# Single writes

What a session may write, given the locks it holds and its own view, and what each
such write keeps of the invariant and the guarantee.
-/

/-- A unit may be taken for a lesson. -/
structure Consumes (terms : Terms) (held : List Lock) (db : Db) (row : PackageConsumption)
    (slot : LessonSlot) (purchase : PackagePurchase) : Prop where
  slotRead : db.slot? row.slotId = some slot
  slotLocked : WriteLocked held (.slot row.slotId)
  notOpen : slot.status ≠ .open
  purchaseRead : db.purchase? row.packagePurchaseId = some purchase
  purchaseLocked : WriteLocked held (.purchase row.packagePurchaseId)
  unvoided : purchase.voidedAt = none
  suits : Suits slot purchase
  room : terms.canonical ->
    WriteLocked held (.advisory (.pkgConsume (.canonical purchase.accountId))) ∧
      db.activeCount row.packagePurchaseId < purchase.countInitial

/-- What a session may write. -/
def Allows (terms : Terms) (held : List Lock) (db : Db) : Write -> Prop
  | .slot (.insert row) =>
    WriteLocked held (.slot row.id) ∧ row.id.minter.isSome ∧ db.slot? row.id = none
  | .slot (.replace row) =>
    WriteLocked held (.slot row.id) ∧ ∃ old, db.slot? row.id = some old ∧ SlotStep old row
  | .slot (.delete _) => False
  | .completion (.insert row) =>
    WriteLocked held (.completion row.id) ∧ WriteLocked held (.slot row.slotId) ∧
      db.completion? row.id = none ∧ db.completionOf? row.slotId = none ∧
      (db.slot? row.slotId).isSome
  | .completion (.replace row) =>
    WriteLocked held (.completion row.id) ∧ ∃ old, db.completion? row.id = some old ∧
      Revises old row ∧ (row.wasNoShow = old.wasNoShow ∨ WriteLocked held (.slot row.slotId))
  | .completion (.delete row) =>
    (LockTarget.completion row.id).forUpdate ∈ held ∧ WriteLocked held (.slot row.slotId) ∧
      db.completion? row.id = some row ∧ db.covered row.id = false ∧ row.immutableAt = none ∧
      ∃ erasure, erasure ∈ db.erasures ∧ Timely terms erasure ∧ erasure.completion = row
  | .settlementCompletion row =>
    ∃ lock, lock ∈ held ∧ lock.target = .completion row.completionId
  | .purchase (.insert row) =>
    WriteLocked held (.purchase row.id) ∧ db.purchase? row.id = none
  | .purchase (.replace row) =>
    WriteLocked held (.purchase row.id) ∧ ∃ old, db.purchase? row.id = some old ∧
      Repackages old row
  | .purchase (.delete _) => False
  | .consumption (.insert row) =>
    WriteLocked held (.consumption row.slotId) ∧ db.consumption? row.slotId = none ∧
      ∃ slot purchase, Consumes terms held db row slot purchase
  | .consumption (.replace row) =>
    WriteLocked held (.consumption row.slotId) ∧
      ∃ old, db.consumption? row.slotId = some old ∧
        row.packagePurchaseId = old.packagePurchaseId ∧ row.active = false
  | .consumption (.delete _) => False
  | _ => True

variable {terms : Terms} {held : List Lock}

theorem Allows.widen {more : List Lock} (wider : ∀ lock, lock ∈ held -> lock ∈ more)
    {db : Db} {write : Write} (allowed : Allows terms held db write) :
    Allows terms more db write := by
  have mono : ∀ {target}, WriteLocked held target -> WriteLocked more target :=
    fun locked => locked.mono wider
  cases write with
  | slot change =>
    cases change with
    | insert row => exact ⟨mono allowed.1, allowed.2⟩
    | replace row => exact ⟨mono allowed.1, allowed.2⟩
    | delete row => exact allowed
  | completion change =>
    cases change with
    | insert row => exact ⟨mono allowed.1, mono allowed.2.1, allowed.2.2⟩
    | replace row =>
      rcases allowed with ⟨locked, old, read, revises, marked⟩
      exact ⟨mono locked, old, read, revises, marked.imp id mono⟩
    | delete row => exact ⟨wider _ allowed.1, mono allowed.2.1, allowed.2.2⟩
  | settlementCompletion row =>
    rcases allowed with ⟨lock, member, target⟩
    exact ⟨lock, wider _ member, target⟩
  | purchase change =>
    cases change with
    | insert row => exact ⟨mono allowed.1, allowed.2⟩
    | replace row => exact ⟨mono allowed.1, allowed.2⟩
    | delete row => exact allowed
  | consumption change =>
    cases change with
    | insert row =>
      rcases allowed with ⟨locked, fresh, slot, purchase, unit⟩
      exact ⟨mono locked, fresh, slot, purchase,
        { unit with
          slotLocked := mono unit.slotLocked
          purchaseLocked := mono unit.purchaseLocked
          room := fun canonical => ⟨mono (unit.room canonical).1, (unit.room canonical).2⟩ }⟩
    | replace row => exact ⟨mono allowed.1, allowed.2⟩
    | delete row => exact allowed
  | _ => trivial

theorem flag_congr {before after : Db} (same : after.completions = before.completions)
    (slotId completionId : RowId) :
    flag after slotId completionId = flag before slotId completionId := by
  rw [flag, flag, Db.completion?, Db.completion?, same]

theorem LessonsKept.of_same {before after : Db} (slots : after.slots = before.slots)
    (completions : after.completions = before.completions)
    (erasures : ∀ erasure, erasure ∈ before.erasures -> erasure ∈ after.erasures)
    (covered : after.settlementCompletions = before.settlementCompletions) :
    LessonsKept terms held before after where
  slots id _ := by rw [Db.slot?, Db.slot?, slots]
  completions id _ := by rw [Db.completion?, Db.completion?, completions]
  flags slotId _ id := flag_congr completions slotId id
  lasting id row read := by
    refine Or.inl ⟨row, ?_, Revises.refl row⟩
    have same : row.id = id := key_of_get read
    rw [same, Db.completion?, completions]
    exact read
  erasures := erasures
  covered := ⟨[], by rw [covered, List.append_nil], by simp⟩

theorem activeCount_congr {before after : Db} (same : after.consumptions = before.consumptions)
    (id : RowId) : after.activeCount id = before.activeCount id := by
  rw [Db.activeCount, Db.activeCount, same]

theorem PackagesKept.of_same {before after : Db} (purchases : after.purchases = before.purchases)
    (consumptions : after.consumptions = before.consumptions) :
    PackagesKept terms held before after where
  purchases id _ := by rw [Db.purchase?, Db.purchase?, purchases]
  repackaged id row read := ⟨row, by rwa [Db.purchase?, purchases], Repackages.refl row⟩
  consumptions slotId _ := by rw [Db.consumption?, Db.consumption?, consumptions]
  counts _ id _ _ _ := Nat.le_of_eq (activeCount_congr consumptions id)
  voids slotId row read _ _ _ := ⟨row, by rwa [Db.consumption?, ← consumptions], rfl⟩

section Slots

variable {db : Db} {row : LessonSlot}

theorem slot?_insert (fresh : db.slot? row.id = none) (id : RowId) :
    (db.apply (.slot (.insert row))).slot? id = if row.id = id then some row else db.slot? id := by
  by_cases same : row.id = id
  · rw [if_pos same, ← same]
    exact get_insert_self row fresh
  · rw [if_neg same]
    exact get_apply_of_ne (.insert row) (Ne.symm same)

theorem slot?_replace {old : LessonSlot} (found : db.slot? row.id = some old) (id : RowId) :
    (db.apply (.slot (.replace row))).slot? id = if row.id = id then some row else db.slot? id := by
  by_cases same : row.id = id
  · rw [if_pos same, ← same]
    exact get_replace_self row found
  · rw [if_neg same]
    exact get_replace_of_ne row (Ne.symm same)

theorem insertSlot_inv (inv : Inv terms db) (fresh : db.slot? row.id = none) :
    Inv terms (db.apply (.slot (.insert row))) :=
  { inv with
    slotUnique := inv.slotUnique.insert fresh
    completionPlaced := by
      intro completion member
      rw [slot?_insert fresh]
      split
      · rfl
      · exact inv.completionPlaced completion member
    consumptionPlaced := by
      intro unit member
      rcases inv.consumptionPlaced unit member with ⟨slot, purchase, read, rest⟩
      refine ⟨slot, purchase, ?_, rest⟩
      rw [slot?_insert fresh, if_neg, read]
      intro same
      rw [same, read] at fresh
      cases fresh }

theorem replaceSlot_inv (inv : Inv terms db) {old : LessonSlot}
    (found : db.slot? row.id = some old) (stepped : SlotStep old row) :
    Inv terms (db.apply (.slot (.replace row))) :=
  { inv with
    slotUnique := inv.slotUnique.replace row
    completionPlaced := by
      intro completion member
      rw [slot?_replace found]
      split
      · rfl
      · exact inv.completionPlaced completion member
    consumptionPlaced := by
      intro unit member
      rcases inv.consumptionPlaced unit member with ⟨slot, purchase, read, readPurchase, rest⟩
      by_cases same : row.id = unit.slotId
      · have first : old = slot := by
          rw [same, read] at found
          exact (Option.some.inj found).symm
        subst first
        refine ⟨row, purchase, by rw [slot?_replace found, if_pos same], readPurchase, ?_, ?_⟩
        · exact fun reopened => rest.1 (stepped.reopened reopened)
        · intro active
          have suits := rest.2 active
          have learner := stepped.learnerAccountId.resolve_left rest.1
          exact ⟨learner ▸ suits.learnerAccountId,
            stepped.durationMinutes ▸ suits.durationMinutes,
            stepped.teacherAccountId ▸ suits.teacherId⟩
      · refine ⟨slot, purchase, ?_, readPurchase, rest⟩
        rw [slot?_replace found, if_neg same, read] }

theorem changeSlot_guarantee (change : Change LessonSlot)
    (locked : WriteLocked held (.slot change.row.id)) :
    Guarantee terms held db (db.apply (.slot change)) where
  lessons :=
    { (LessonsKept.refl db : LessonsKept terms held db db) with
      lasting := fun _ _ read => Lasts.refl read
      slots := by
        intro id free
        refine get_apply_of_ne change ?_
        intro same
        rw [same] at free
        exact free locked }
  packages := .of_same rfl rfl
  clock := rfl

end Slots

/-! ## Completions -/

section Completions

variable {db : Db} {row : LessonCompletion}

theorem completion?_insert (fresh : db.completion? row.id = none) (id : RowId) :
    (db.apply (.completion (.insert row))).completion? id =
      if row.id = id then some row else db.completion? id := by
  by_cases same : row.id = id
  · rw [if_pos same, ← same]
    exact get_insert_self row fresh
  · rw [if_neg same]
    exact get_apply_of_ne (.insert row) (Ne.symm same)

theorem completion?_replace {old : LessonCompletion} (found : db.completion? row.id = some old)
    (id : RowId) : (db.apply (.completion (.replace row))).completion? id =
      if row.id = id then some row else db.completion? id := by
  by_cases same : row.id = id
  · rw [if_pos same, ← same]
    exact get_replace_self row found
  · rw [if_neg same]
    exact get_replace_of_ne row (Ne.symm same)

theorem completion?_delete (id : RowId) : (db.apply (.completion (.delete row))).completion? id =
      if row.id = id then none else db.completion? id := by
  by_cases same : row.id = id
  · rw [if_pos same, ← same]
    exact get_delete_self row
  · rw [if_neg same]
    exact get_delete_of_ne row (Ne.symm same)

theorem completionOf?_eq_some (inv : Inv terms db) {slotId : RowId} :
    db.completionOf? slotId = some row <->
      db.completion? row.id = some row ∧ row.slotId = slotId := by
  rw [Db.completionOf?, get_eq_some_iff inv.oneCompletion, Db.completion?,
    get_eq_some_iff inv.completionUnique]
  simp

theorem insertCompletion_inv (inv : Inv terms db) (fresh : db.completion? row.id = none)
    (free : db.completionOf? row.slotId = none) (placed : (db.slot? row.slotId).isSome) :
    Inv terms (db.apply (.completion (.insert row))) :=
  { inv with
    completionUnique := inv.completionUnique.insert fresh
    oneCompletion := by
      have unique := inv.oneCompletion.insert free
      exact unique
    completionPlaced := by
      intro completion member
      rcases (mem_insert LessonCompletion.id).mp member with old | rfl
      · exact inv.completionPlaced completion old
      · exact placed }

theorem map_slotId_replace {rows : List LessonCompletion} {old new : LessonCompletion}
    (unique : Unique LessonCompletion.id rows)
    (found : get LessonCompletion.id rows new.id = some old) (same : new.slotId = old.slotId) :
    ((Change.replace new).apply LessonCompletion.id rows).map LessonCompletion.slotId =
      rows.map LessonCompletion.slotId := by
  simp only [Change.apply, List.map_map]
  apply List.map_congr_left
  intro row member
  by_cases key : row.id = new.id
  · have read := get_of_mem unique member
    rw [key, found] at read
    simp [key, same, Option.some.inj read]
  · simp [key]

theorem replaceCompletion_inv (inv : Inv terms db) {old : LessonCompletion}
    (found : db.completion? row.id = some old) (revises : Revises old row) :
    Inv terms (db.apply (.completion (.replace row))) :=
  { inv with
    completionUnique := inv.completionUnique.replace row
    oneCompletion := by
      have same := map_slotId_replace inv.completionUnique found revises.slotId
      have unique : (db.completions.map LessonCompletion.slotId).Nodup := inv.oneCompletion
      rw [← same] at unique
      exact unique
    completionPlaced := by
      intro completion member
      rcases mem_replace member with rfl | ⟨listed, -⟩
      · rw [revises.slotId]
        exact inv.completionPlaced old (mem_of_get found)
      · exact inv.completionPlaced completion listed }

theorem deleteCompletion_inv (inv : Inv terms db) :
    Inv terms (db.apply (.completion (.delete row))) :=
  { inv with
    completionUnique := inv.completionUnique.delete row
    oneCompletion := List.Nodup.sublist (List.filter_sublist.map _) inv.oneCompletion
    completionPlaced := by
      intro completion member
      exact inv.completionPlaced completion (mem_delete.mp member).1 }

theorem changeCompletion_guarantee (change : Change LessonCompletion)
    (locked : WriteLocked held (.completion change.row.id))
    (flags : ∀ slotId, ¬ WriteLocked held (.slot slotId) ->
      flag (db.apply (.completion change)) slotId change.row.id = flag db slotId change.row.id)
    (lasting : ∀ old, db.completion? change.row.id = some old ->
      Lasts terms db (db.apply (.completion change)) old) :
    Guarantee terms held db (db.apply (.completion change)) where
  lessons :=
    { slots := fun _ _ => rfl
      completions := by
        intro id free
        refine get_apply_of_ne change ?_
        intro same
        rw [same] at free
        exact free locked
      flags := by
        intro slotId free id
        by_cases same : id = change.row.id
        · rw [same]
          exact flags slotId free
        · have other : (db.apply (.completion change)).completion? id = db.completion? id :=
            get_apply_of_ne change same
          rw [flag, flag, other]
      lasting := by
        intro id old read
        by_cases same : id = change.row.id
        · exact lasting old (same ▸ read)
        · have other : (db.apply (.completion change)).completion? id = db.completion? id :=
            get_apply_of_ne change same
          have key : old.id = id := key_of_get read
          exact Or.inl ⟨old, by rw [key, other, read], Revises.refl old⟩
      erasures := fun _ member => member
      covered := ⟨[], (List.append_nil _).symm, by simp⟩ }
  packages := .of_same rfl rfl
  clock := rfl

theorem flag_of_ne {slotId completionId : RowId} {found : LessonCompletion}
    (read : db.completion? completionId = some found) (different : found.slotId ≠ slotId) :
    flag db slotId completionId = none := by
  simp [flag, read, different]

theorem flag_of_none {slotId completionId : RowId} (read : db.completion? completionId = none) :
    flag db slotId completionId = none := by
  simp [flag, read]

theorem ne_of_unlocked {slotId other : RowId} (locked : WriteLocked held (.slot slotId))
    (free : ¬ WriteLocked held (.slot other)) : slotId ≠ other := by
  rintro rfl
  exact free locked

theorem insertCompletion_guarantee (locked : WriteLocked held (.completion row.id))
    (slotLocked : WriteLocked held (.slot row.slotId)) (fresh : db.completion? row.id = none) :
    Guarantee terms held db (db.apply (.completion (.insert row))) := by
  refine changeCompletion_guarantee (.insert row) locked ?_ ?_
  · intro slotId free
    have after := completion?_insert fresh row.id
    rw [if_pos rfl] at after
    rw [Change.row, flag_of_none fresh, flag_of_ne after (ne_of_unlocked slotLocked free)]
  · intro old read
    rw [Change.row, fresh] at read
    cases read

theorem replaceCompletion_guarantee (locked : WriteLocked held (.completion row.id))
    {old : LessonCompletion} (found : db.completion? row.id = some old) (revises : Revises old row)
    (marked : row.wasNoShow = old.wasNoShow ∨ WriteLocked held (.slot row.slotId)) :
    Guarantee terms held db (db.apply (.completion (.replace row))) := by
  have after := completion?_replace found row.id
  rw [if_pos rfl] at after
  refine changeCompletion_guarantee (.replace row) locked ?_ ?_
  · intro slotId free
    simp only [Change.row]
    rcases marked with same | slotLocked
    · by_cases own : row.slotId = slotId
      · have also : old.slotId = slotId := revises.slotId.symm.trans own
        simp [flag, found, after, Option.filter, own, also, same]
      · have also : old.slotId ≠ slotId := fun clash => own (revises.slotId.trans clash)
        rw [flag_of_ne after own, flag_of_ne found also]
    · have different := ne_of_unlocked slotLocked free
      have also : old.slotId ≠ slotId := fun clash => different (revises.slotId.trans clash)
      rw [flag_of_ne after different, flag_of_ne found also]
  · intro before read
    have same : before = old := Option.some.inj (read.symm.trans found)
    subst same
    exact Or.inl ⟨row, by rw [← revises.id, after], revises⟩

theorem deleteCompletion_guarantee (allowed : Allows terms held db (.completion (.delete row))) :
    Guarantee terms held db (db.apply (.completion (.delete row))) := by
  rcases allowed with ⟨lock, slotLocked, read, uncovered, unstamped, erasure, listed, timely, same⟩
  have after : (db.apply (.completion (.delete row))).completion? row.id = none := by
    rw [completion?_delete, if_pos rfl]
  refine changeCompletion_guarantee (.delete row) (WriteLocked.of_mem lock) ?_ ?_
  · intro slotId free
    rw [Change.row, flag_of_none after, flag_of_ne read (ne_of_unlocked slotLocked free)]
  · intro old found
    have alike : row = old := Option.some.inj (read.symm.trans found)
    subst alike
    refine Or.inr ⟨uncovered, unstamped, erasure, listed, timely, ?_⟩
    rw [same]
    exact Revises.refl row

end Completions

/-! ## Purchases and consumptions -/

section Packages

variable {db : Db}

theorem activeCount_eq_total (db : Db) (id : RowId) : db.activeCount id =
      total (fun row => row.packagePurchaseId = id && row.active) (fun _ => 1) db.consumptions := by
  simp [Db.activeCount, total]

theorem purchase?_insert {row : PackagePurchase} (fresh : db.purchase? row.id = none) (id : RowId) :
    (db.apply (.purchase (.insert row))).purchase? id =
      if row.id = id then some row else db.purchase? id := by
  by_cases same : row.id = id
  · rw [if_pos same, ← same]
    exact get_insert_self row fresh
  · rw [if_neg same]
    exact get_apply_of_ne (.insert row) (Ne.symm same)

theorem purchase?_replace {row old : PackagePurchase} (found : db.purchase? row.id = some old)
    (id : RowId) : (db.apply (.purchase (.replace row))).purchase? id =
      if row.id = id then some row else db.purchase? id := by
  by_cases same : row.id = id
  · rw [if_pos same, ← same]
    exact get_replace_self row found
  · rw [if_neg same]
    exact get_replace_of_ne row (Ne.symm same)

theorem activeCount_of_absent (inv : Inv terms db) {id : RowId}
    (absent : db.purchase? id = none) : db.activeCount id = 0 := by
  rw [activeCount_eq_total]
  refine total_eq_zero ?_
  intro unit member
  rcases inv.consumptionPlaced unit member with ⟨slot, purchase, -, read, -⟩
  have different : unit.packagePurchaseId ≠ id := by
    intro same
    rw [same, absent] at read
    cases read
  simp [different]

theorem insertPurchase_inv (inv : Inv terms db) {row : PackagePurchase}
    (fresh : db.purchase? row.id = none) : Inv terms (db.apply (.purchase (.insert row))) :=
  { inv with
    purchaseUnique := inv.purchaseUnique.insert fresh
    consumptionPlaced := by
      intro unit member
      rcases inv.consumptionPlaced unit member with ⟨slot, purchase, readSlot, read, rest⟩
      refine ⟨slot, purchase, readSlot, ?_, rest⟩
      rw [purchase?_insert fresh, if_neg, read]
      intro same
      rw [same, read] at fresh
      cases fresh
    capacity := by
      intro canonical purchase member
      rcases (mem_insert PackagePurchase.id).mp member with old | rfl
      · exact inv.capacity canonical purchase old
      · have none_used := activeCount_of_absent inv fresh
        exact Nat.le_trans (Nat.le_of_eq none_used) (Nat.zero_le _) }

theorem replacePurchase_inv (inv : Inv terms db) {row old : PackagePurchase}
    (found : db.purchase? row.id = some old) (again : Repackages old row) :
    Inv terms (db.apply (.purchase (.replace row))) :=
  { inv with
    purchaseUnique := inv.purchaseUnique.replace row
    consumptionPlaced := by
      intro unit member
      rcases inv.consumptionPlaced unit member with ⟨slot, purchase, readSlot, read, notOpen, suits⟩
      by_cases same : row.id = unit.packagePurchaseId
      · have first : old = purchase := by
          rw [same, read] at found
          exact (Option.some.inj found).symm
        subst first
        exact ⟨slot, row, readSlot, by rw [purchase?_replace found, if_pos same], notOpen,
          fun active => again.suits (suits active)⟩
      · refine ⟨slot, purchase, readSlot, ?_, notOpen, suits⟩
        rw [purchase?_replace found, if_neg same, read]
    capacity := by
      intro canonical purchase member
      rcases mem_replace member with rfl | ⟨listed, -⟩
      · rw [again.countInitial, again.id]
        exact inv.capacity canonical old (mem_of_get found)
      · exact inv.capacity canonical purchase listed }

theorem changePurchase_guarantee (change : Change PackagePurchase)
    (locked : WriteLocked held (.purchase change.row.id))
    (again : ∀ old, db.purchase? change.row.id = some old ->
      ∃ now, (db.apply (.purchase change)).purchase? change.row.id = some now ∧
        Repackages old now) : Guarantee terms held db (db.apply (.purchase change)) where
  lessons := .of_same rfl rfl (fun _ member => member) rfl
  packages :=
    { purchases := by
        intro id free
        refine get_apply_of_ne change ?_
        intro same
        rw [same] at free
        exact free locked
      repackaged := by
        intro id old read
        by_cases same : id = change.row.id
        · subst same
          exact again old read
        · refine ⟨old, ?_, Repackages.refl old⟩
          exact (get_apply_of_ne change same).trans read
      consumptions := fun _ _ => rfl
      counts := fun _ id _ _ _ => Nat.le_refl _
      voids := fun slotId row read _ _ _ => ⟨row, read, rfl⟩ }
  clock := rfl

theorem consumption?_insert {row : PackageConsumption} (fresh : db.consumption? row.slotId = none)
    (slotId : RowId) : (db.apply (.consumption (.insert row))).consumption? slotId =
      if row.slotId = slotId then some row else db.consumption? slotId := by
  by_cases same : row.slotId = slotId
  · rw [if_pos same, ← same]
    exact get_insert_self row fresh
  · rw [if_neg same]
    exact get_apply_of_ne (.insert row) (Ne.symm same)

theorem consumption?_replace {row old : PackageConsumption}
    (found : db.consumption? row.slotId = some old) (slotId : RowId) :
    (db.apply (.consumption (.replace row))).consumption? slotId =
      if row.slotId = slotId then some row else db.consumption? slotId := by
  by_cases same : row.slotId = slotId
  · rw [if_pos same, ← same]
    exact get_replace_self row found
  · rw [if_neg same]
    exact get_replace_of_ne row (Ne.symm same)

theorem activeCount_insert (row : PackageConsumption) (id : RowId) :
    (db.apply (.consumption (.insert row))).activeCount id =
      db.activeCount id + if row.packagePurchaseId = id && row.active then 1 else 0 := by
  rw [activeCount_eq_total, activeCount_eq_total]
  exact total_insert PackageConsumption.slotId row

theorem activeCount_restore (inv : Inv terms db) {row old : PackageConsumption}
    (found : db.consumption? row.slotId = some old) (restored : row.active = false) (id : RowId) :
    (db.apply (.consumption (.replace row))).activeCount id +
        (if old.packagePurchaseId = id && old.active then 1 else 0) = db.activeCount id := by
  rw [activeCount_eq_total, activeCount_eq_total]
  have exchanged := total_replace
    (fun unit : PackageConsumption => unit.packagePurchaseId = id && unit.active) (fun _ => 1)
    inv.consumptionUnique found
  simp only [restored, Bool.and_false, Bool.false_eq_true, if_false, Nat.add_zero] at exchanged
  exact exchanged

theorem insertConsumption_inv (inv : Inv terms db) {row : PackageConsumption}
    {slot : LessonSlot} {purchase : PackagePurchase} (fresh : db.consumption? row.slotId = none)
    (unit : Consumes terms held db row slot purchase) :
    Inv terms (db.apply (.consumption (.insert row))) :=
  { inv with
    consumptionUnique := inv.consumptionUnique.insert fresh
    consumptionPlaced := by
      intro other member
      rcases (mem_insert PackageConsumption.slotId).mp member with old | rfl
      · exact inv.consumptionPlaced other old
      · exact ⟨slot, purchase, unit.slotRead, unit.purchaseRead, unit.notOpen,
          fun _ => unit.suits⟩
    capacity := by
      intro canonical other member
      have before := inv.capacity canonical other member
      rw [activeCount_insert]
      split
      · rename_i counted
        simp only [Bool.and_eq_true, decide_eq_true_eq] at counted
        have same : purchase = other := by
          have read := get_of_mem inv.purchaseUnique member
          rw [← counted.1] at read
          exact Option.some.inj (unit.purchaseRead.symm.trans read)
        have room := (unit.room canonical).2
        rw [counted.1, same] at room
        exact room
      · exact before }

theorem replaceConsumption_inv (inv : Inv terms db) {row old : PackageConsumption}
    (found : db.consumption? row.slotId = some old)
    (same : row.packagePurchaseId = old.packagePurchaseId) (restored : row.active = false) :
    Inv terms (db.apply (.consumption (.replace row))) :=
  { inv with
    consumptionUnique := inv.consumptionUnique.replace row
    consumptionPlaced := by
      intro other member
      rcases mem_replace member with rfl | ⟨listed, -⟩
      · have key : old.slotId = other.slotId := key_of_get found
        rcases inv.consumptionPlaced old (mem_of_get found) with ⟨slot, purchase, read, rest⟩
        refine ⟨slot, purchase, key ▸ read, same ▸ rest.1, rest.2.1, ?_⟩
        intro active
        rw [restored] at active
        cases active
      · exact inv.consumptionPlaced other listed
    capacity := by
      intro canonical purchase member
      have before := inv.capacity canonical purchase member
      have fewer := activeCount_restore inv found restored purchase.id
      exact Nat.le_trans (Nat.le.intro fewer) before }

theorem insertConsumption_guarantee {row : PackageConsumption}
    {slot : LessonSlot} {purchase : PackagePurchase}
    (locked : WriteLocked held (.consumption row.slotId))
    (fresh : db.consumption? row.slotId = none) (unit : Consumes terms held db row slot purchase) :
    Guarantee terms held db (db.apply (.consumption (.insert row))) where
  lessons := .of_same rfl rfl (fun _ member => member) rfl
  packages :=
    { purchases := fun _ _ => rfl
      repackaged := fun _ purchase read => ⟨purchase, read, Repackages.refl purchase⟩
      consumptions := by
        intro slotId free
        rw [consumption?_insert fresh, if_neg]
        rintro rfl
        exact free locked
      counts := by
        intro canonical id other read free
        rw [activeCount_insert, if_neg]
        · exact Nat.le_refl _
        · intro counted
          simp only [Bool.and_eq_true, decide_eq_true_eq] at counted
          have same : purchase = other := by
            rw [← counted.1] at read
            exact Option.some.inj (unit.purchaseRead.symm.trans read)
          exact free (same ▸ (unit.room canonical).1)
      voids := by
        intro slotId other read otherPurchase readPurchase voided
        rw [consumption?_insert fresh] at read
        split at read
        · have same : row = other := Option.some.inj read
          subst same
          have alike : purchase = otherPurchase :=
            Option.some.inj (unit.purchaseRead.symm.trans readPurchase)
          subst alike
          rw [unit.unvoided] at voided
          cases voided
        · exact ⟨other, read, rfl⟩ }
  clock := rfl

theorem replaceConsumption_guarantee (inv : Inv terms db) {row old : PackageConsumption}
    (locked : WriteLocked held (.consumption row.slotId))
    (found : db.consumption? row.slotId = some old)
    (same : row.packagePurchaseId = old.packagePurchaseId) (restored : row.active = false) :
    Guarantee terms held db (db.apply (.consumption (.replace row))) where
  lessons := .of_same rfl rfl (fun _ member => member) rfl
  packages :=
    { purchases := fun _ _ => rfl
      repackaged := fun _ purchase read => ⟨purchase, read, Repackages.refl purchase⟩
      consumptions := by
        intro slotId free
        rw [consumption?_replace found, if_neg]
        rintro rfl
        exact free locked
      counts := by
        intro _ id _ _ _
        exact Nat.le.intro (activeCount_restore inv found restored id)
      voids := by
        intro slotId other read _ _ _
        rw [consumption?_replace found] at read
        split at read
        · rename_i own
          have alike : row = other := Option.some.inj read
          subst alike
          exact ⟨old, own ▸ found, same.symm⟩
        · exact ⟨other, read, rfl⟩ }
  clock := rfl

end Packages

def Quiet (write : Write) : Prop :=
  write.table ∉ [Table.slots, .completions, .settlementCompletions, .erasures, .purchases,
    .consumptions]

/-- The tables of the contract, and the clock, are the same in both states. -/
structure Same (before after : Db) : Prop where
  slots : after.slots = before.slots
  completions : after.completions = before.completions
  covered : after.settlementCompletions = before.settlementCompletions
  erasures : after.erasures = before.erasures
  purchases : after.purchases = before.purchases
  consumptions : after.consumptions = before.consumptions
  clock : after.clock = before.clock

theorem Quiet.same {write : Write} (quiet : Quiet write) (db : Db) : Same db (db.apply write) := by
  cases write with
  | allocation row =>
    simp only [Db.apply, Db.allocate]
    split <;> exact ⟨rfl, rfl, rfl, rfl, rfl, rfl, rfl⟩
  | _ => first
    | exact ⟨rfl, rfl, rfl, rfl, rfl, rfl, rfl⟩
    | exact absurd quiet (by simp [Quiet, Write.table])

theorem Same.guarantee {before after : Db} (same : Same before after) :
    Guarantee terms held before after where
  lessons :=
    .of_same same.slots same.completions (fun _ member => same.erasures ▸ member) same.covered
  packages := .of_same same.purchases same.consumptions
  clock := same.clock

theorem inv_of_same {before after : Db} (inv : Inv terms before)
    (slots : after.slots = before.slots) (completions : after.completions = before.completions)
    (purchases : after.purchases = before.purchases)
    (consumptions : after.consumptions = before.consumptions) : Inv terms after where
  slotUnique := by rw [slots]; exact inv.slotUnique
  completionUnique := by rw [completions]; exact inv.completionUnique
  oneCompletion := by rw [completions]; exact inv.oneCompletion
  completionPlaced := by
    rw [completions]
    simpa only [Db.slot?, slots] using inv.completionPlaced
  purchaseUnique := by rw [purchases]; exact inv.purchaseUnique
  consumptionUnique := by rw [consumptions]; exact inv.consumptionUnique
  consumptionPlaced := by
    rw [consumptions]
    simpa only [Placed, Db.slot?, slots, Db.purchase?, purchases] using inv.consumptionPlaced
  capacity := by
    rw [purchases]
    simpa only [activeCount_congr consumptions] using inv.capacity

theorem Allows.kept {db : Db} {write : Write} (inv : Inv terms db)
    (allowed : Allows terms held db write) :
    Inv terms (db.apply write) ∧ Guarantee terms held db (db.apply write) := by
  by_cases quiet : Quiet write
  · have same := quiet.same db
    exact ⟨inv_of_same inv same.slots same.completions same.purchases same.consumptions,
      same.guarantee⟩
  cases write with
  | slot change =>
    cases change with
    | insert row =>
      exact ⟨insertSlot_inv inv allowed.2.2, changeSlot_guarantee (.insert row) allowed.1⟩
    | replace row =>
      rcases allowed with ⟨locked, old, found, stepped⟩
      exact ⟨replaceSlot_inv inv found stepped, changeSlot_guarantee (.replace row) locked⟩
    | delete row => exact allowed.elim
  | completion change =>
    cases change with
    | insert row =>
      rcases allowed with ⟨locked, slotLocked, fresh, free, placed⟩
      exact ⟨insertCompletion_inv inv fresh free placed,
        insertCompletion_guarantee locked slotLocked fresh⟩
    | replace row =>
      rcases allowed with ⟨locked, old, found, revises, marked⟩
      exact ⟨replaceCompletion_inv inv found revises,
        replaceCompletion_guarantee locked found revises marked⟩
    | delete row => exact ⟨deleteCompletion_inv inv, deleteCompletion_guarantee allowed⟩
  | purchase change =>
    cases change with
    | insert row =>
      refine ⟨insertPurchase_inv inv allowed.2,
        changePurchase_guarantee (.insert row) allowed.1 ?_⟩
      intro old read
      have fresh : db.purchase? row.id = none := allowed.2
      rw [Change.row, fresh] at read
      cases read
    | replace row =>
      rcases allowed with ⟨locked, old, found, again⟩
      refine ⟨replacePurchase_inv inv found again,
        changePurchase_guarantee (.replace row) locked ?_⟩
      intro before read
      have same : old = before := Option.some.inj (found.symm.trans read)
      exact ⟨row, by rw [Change.row, purchase?_replace found, if_pos rfl], same ▸ again⟩
    | delete row => exact allowed.elim
  | consumption change =>
    cases change with
    | insert row =>
      rcases allowed with ⟨locked, fresh, slot, purchase, unit⟩
      exact ⟨insertConsumption_inv inv fresh unit,
        insertConsumption_guarantee locked fresh unit⟩
    | replace row =>
      rcases allowed with ⟨locked, old, found, same, restored⟩
      exact ⟨replaceConsumption_inv inv found same restored,
        replaceConsumption_guarantee inv locked found same restored⟩
    | delete row => exact allowed.elim
  | settlementCompletion row =>
    refine ⟨inv_of_same inv rfl rfl rfl rfl, ?_, .of_same rfl rfl, rfl⟩
    exact
      { (LessonsKept.refl db : LessonsKept terms held db db) with
        lasting := fun _ _ read => (Lasts.refl read).imp id id
        covered := ⟨[row], rfl, by
          intro other member
          rw [List.mem_singleton.mp member]
          exact allowed⟩ }
  | erasure row =>
    refine ⟨inv_of_same inv rfl rfl rfl rfl, ?_, .of_same rfl rfl, rfl⟩
    exact .of_same rfl rfl (fun _ member => List.mem_append_left _ member) rfl
  | _ => exact absurd (by simp [Quiet, Write.table]) quiet

end LevelChannel.Scheduling
