import LevelChannel.Pricing.WriteCaps

namespace LevelChannel.WriteCaps

open ReadCommitted Tables

/-!
# Caps that hold

A teacher's counts only grow under the lock of the teacher, which a session holds from its
count to its commit.  The edit that activates without the lock is the exception; it adds
nothing as long as the package it has found active still is.
-/

section Counting

variable {Row Key : Type} [DecidableEq Key] {key : Row -> Key} {rows : List Row}

theorem length_filter_insert (key : Row -> Key) (where_ : Row -> Bool) (new : Row) :
    (((Change.insert new).apply key rows).filter where_).length =
      (rows.filter where_).length + if where_ new then 1 else 0 := by
  rw [Change.apply, List.filter_append, List.length_append]
  by_cases chosen : where_ new = true <;> simp [chosen]

theorem length_filter_replace (where_ : Row -> Bool) (unique : Tables.Unique key rows)
    {old new : Row} (found : Tables.get key rows (key new) = some old) :
    (((Change.replace new).apply key rows).filter where_).length + (if where_ old then 1 else 0) =
      (rows.filter where_).length + if where_ new then 1 else 0 := by
  have counted := total_replace where_ (fun _ => 1) unique found
  simpa only [total, List.map_const', List.sum_replicate_nat, Nat.mul_one] using counted

end Counting

def LessonPackage.counts (row : LessonPackage) (teacherId : RowId) : Bool :=
  row.teacherId = teacherId && row.isActive && row.deletedAt.isNone

def Tariff.counts (row : Tariff) (teacherId : RowId) : Bool :=
  row.teacherId = teacherId && row.deletedAt.isNone

theorem Within.mono {cap : Option Nat} {less more : Nat} (fewer : less ≤ more)
    (within : Within cap more) : Within cap less := by
  cases cap with
  | none => trivial
  | some cap => exact Nat.le_trans fewer within

theorem within_of_not_reached {cap : Option Nat} {current : Nat}
    (room : reached cap current = none) : Within cap (current + 1) := by
  cases cap with
  | none => trivial
  | some cap =>
    simp only [reached] at room
    split at room
    · cases room
    · next fewer => exact Nat.lt_of_not_le fewer

/-! ## The contract -/

/-- Nobody has more than the tier allows. -/
structure Good (caps : RowId -> TierWriteCaps) (db : CatalogDb) : Prop where
  packageUnique : Tables.Unique LessonPackage.id db.packages
  tariffUnique : Tables.Unique Tariff.id db.tariffs
  within : ∀ teacherId, db.WithinCaps (caps teacherId) teacherId

/-- What a session may change while it holds locks: it adds for a teacher under the
teacher's lock, and changes a row under the row's. -/
structure Guarantee (held : List CatalogLock) (before after : CatalogDb) : Prop where
  packageCounts : ∀ teacherId, CatalogLock.tierCap teacherId ∉ held ->
    after.countActivePackagesByTeacher teacherId ≤ before.countActivePackagesByTeacher teacherId
  tariffCounts : ∀ teacherId, CatalogLock.tierCap teacherId ∉ held ->
    after.countActiveTariffsForTeacher teacherId ≤ before.countActiveTariffsForTeacher teacherId
  packages : ∀ id, CatalogLock.package id ∉ held -> after.package? id = before.package? id
  tariffs : ∀ id, CatalogLock.tariff id ∉ held -> after.tariff? id = before.tariff? id
  owners : ∀ id row, before.package? id = some row ->
    ∃ now, after.package? id = some now ∧ now.teacherId = row.teacherId

theorem Guarantee.of_same {held : List CatalogLock} {before after : CatalogDb}
    (packages : after.packages = before.packages) (tariffs : after.tariffs = before.tariffs) :
    Guarantee held before after where
  packageCounts teacherId _ := by
    rw [CatalogDb.countActivePackagesByTeacher, packages]
    exact Nat.le_refl _
  tariffCounts teacherId _ := by
    rw [CatalogDb.countActiveTariffsForTeacher, tariffs]
    exact Nat.le_refl _
  packages id _ := by rw [CatalogDb.package?, packages, CatalogDb.package?]
  tariffs id _ := by rw [CatalogDb.tariff?, tariffs, CatalogDb.tariff?]
  owners id row read := ⟨row, by rw [CatalogDb.package?, packages]; exact read, rfl⟩

def contract (caps : RowId -> TierWriteCaps) : Contract CatalogDb CatalogLock where
  Good := Good caps
  Guarantee := fun _ => Guarantee

def StillActive : CatalogLabel -> CatalogDb -> Prop
  | .plain, _ => True
  | .overwrite id, now => ∀ row, now.package? id = some row ->
      row.isActive = true ∨ row.deletedAt.isSome

variable {caps : RowId -> TierWriteCaps} {session : Nat} {held : List CatalogLock}
  {db : CatalogDb}

theorem steady (caps : RowId -> TierWriteCaps) : (contract caps).Steady catalogStore where
  drift _ _ good := ⟨good.packageUnique, good.tariffUnique, good.within⟩
  close _ _ _ good := ⟨good, .of_same rfl rfl⟩

theorem guarantee_of_disturbs {before after : CatalogDb}
    (disturbed : (contract caps).Disturbs catalogStore session held before after) :
    ∃ theirs, catalogStore.Compatible held theirs ∧ Guarantee theirs before after := by
  rcases disturbed with ⟨-, -, ⟨change, rfl⟩ | ⟨other, theirs, -, apart, kept⟩⟩
  · exact ⟨[], (Store.Compatible.nil_left catalogStore held).symm, .of_same rfl rfl⟩
  · exact ⟨theirs, apart, kept⟩

theorem not_held {theirs : List CatalogLock} (apart : catalogStore.Compatible held theirs)
    {lock : CatalogLock} (mine : lock ∈ held) : lock ∉ theirs :=
  apart.not_mem mine (decide_eq_true rfl)

theorem stable_packages {teacherId : RowId} (locked : CatalogLock.tierCap teacherId ∈ held)
    (number : Nat) : (contract caps).Stable catalogStore session held
      fun db => db.countActivePackagesByTeacher teacherId ≤ number := by
  intro before after fewer disturbed
  rcases guarantee_of_disturbs disturbed with ⟨theirs, apart, kept⟩
  exact Nat.le_trans (kept.packageCounts teacherId (not_held apart locked)) fewer

theorem stable_tariffs {teacherId : RowId} (locked : CatalogLock.tierCap teacherId ∈ held)
    (number : Nat) : (contract caps).Stable catalogStore session held
      fun db => db.countActiveTariffsForTeacher teacherId ≤ number := by
  intro before after fewer disturbed
  rcases guarantee_of_disturbs disturbed with ⟨theirs, apart, kept⟩
  exact Nat.le_trans (kept.tariffCounts teacherId (not_held apart locked)) fewer

theorem stable_package {id : RowId} (locked : CatalogLock.package id ∈ held)
    (row : Option LessonPackage) : (contract caps).Stable catalogStore session held
      fun db => db.package? id = row := by
  intro before after read disturbed
  rcases guarantee_of_disturbs disturbed with ⟨theirs, apart, kept⟩
  exact (kept.packages id (not_held apart locked)).trans read

theorem stable_tariff {id : RowId} (locked : CatalogLock.tariff id ∈ held)
    (row : Option Tariff) : (contract caps).Stable catalogStore session held
      fun db => db.tariff? id = row := by
  intro before after read disturbed
  rcases guarantee_of_disturbs disturbed with ⟨theirs, apart, kept⟩
  exact (kept.tariffs id (not_held apart locked)).trans read

theorem stable_owner (id teacherId : RowId) : (contract caps).Stable catalogStore session held
    fun db => ∃ row, db.package? id = some row ∧ row.teacherId = teacherId := by
  rintro before after ⟨row, read, owner⟩ disturbed
  rcases guarantee_of_disturbs disturbed with ⟨theirs, -, kept⟩
  rcases kept.owners id row read with ⟨now, readNow, same⟩
  exact ⟨now, readNow, same.trans owner⟩

theorem nothing_kept (good : Good caps db) : (contract caps).Good (catalogStore.applyAll db []) ∧
    (contract caps).Guarantee session held db (catalogStore.applyAll db []) :=
  ⟨good, .of_same rfl rfl⟩

theorem addPackage_kept (good : Good caps db) {row : LessonPackage}
    (fresh : db.package? row.id = none) (locked : CatalogLock.package row.id ∈ held)
    (counted : CatalogLock.tierCap row.teacherId ∈ held)
    (room : Within (caps row.teacherId).maxPackages
      (db.countActivePackagesByTeacher row.teacherId + 1)) :
    (contract caps).Good (catalogStore.applyAll db [.package (.insert row)]) ∧
      (contract caps).Guarantee session held db
        (catalogStore.applyAll db [.package (.insert row)]) := by
  have counts : ∀ teacherId,
      (db.apply (.package (.insert row))).countActivePackagesByTeacher teacherId =
        db.countActivePackagesByTeacher teacherId + if row.counts teacherId then 1 else 0 :=
    fun teacherId => length_filter_insert LessonPackage.id
      (fun row : LessonPackage => row.counts teacherId) row
  constructor
  · refine ⟨good.packageUnique.insert fresh, good.tariffUnique, fun teacherId => ⟨?_, ?_⟩⟩
    · rw [show catalogStore.applyAll db [.package (.insert row)] =
        db.apply (.package (.insert row)) from rfl, counts]
      by_cases mine : row.teacherId = teacherId
      · rw [← mine]
        refine Within.mono ?_ room
        split <;> omega
      · have other : row.counts teacherId = false := by simp [LessonPackage.counts, mine]
        rw [other]
        exact (good.within teacherId).1
    · exact (good.within teacherId).2
  · constructor
    · intro teacherId unlocked
      have mine : row.teacherId ≠ teacherId := by
        rintro rfl
        exact unlocked counted
      have other : row.counts teacherId = false := by simp [LessonPackage.counts, mine]
      rw [show catalogStore.applyAll db [.package (.insert row)] =
        db.apply (.package (.insert row)) from rfl, counts, other]
      exact Nat.le_refl _
    · exact fun _ _ => Nat.le_refl _
    · intro id unlocked
      have different : id ≠ row.id := by
        rintro rfl
        exact unlocked locked
      exact get_apply_of_ne (.insert row) different
    · exact fun _ _ => rfl
    · intro id old read
      exact ⟨old, get_insert_of_some row read, rfl⟩

theorem editPackage_kept (good : Good caps db) {old new : LessonPackage}
    (found : db.package? new.id = some old) (owner : new.teacherId = old.teacherId)
    (locked : CatalogLock.package new.id ∈ held)
    (may : ∀ teacherId, new.counts teacherId = true -> old.counts teacherId = true ∨
      (CatalogLock.tierCap teacherId ∈ held ∧
        Within (caps teacherId).maxPackages (db.countActivePackagesByTeacher teacherId + 1))) :
    (contract caps).Good (catalogStore.applyAll db [.package (.replace new)]) ∧
      (contract caps).Guarantee session held db
        (catalogStore.applyAll db [.package (.replace new)]) := by
  have counts : ∀ teacherId,
      (catalogStore.applyAll db [.package (.replace new)]).countActivePackagesByTeacher teacherId +
          (if old.counts teacherId then 1 else 0) =
        db.countActivePackagesByTeacher teacherId + if new.counts teacherId then 1 else 0 :=
    fun teacherId =>
      length_filter_replace (fun row : LessonPackage => row.counts teacherId)
        good.packageUnique found
  constructor
  · refine ⟨good.packageUnique.replace new, good.tariffUnique, fun teacherId => ⟨?_, ?_⟩⟩
    · have count := counts teacherId
      by_cases counted : new.counts teacherId = true
      · rcases may teacherId counted with before | ⟨-, room⟩
        · refine Within.mono ?_ (good.within teacherId).1
          rw [counted, before] at count
          exact Nat.le_of_eq (Nat.add_right_cancel count)
        · refine Within.mono ?_ room
          rw [counted] at count
          simp only [if_true] at count
          omega
      · refine Within.mono ?_ (good.within teacherId).1
        rw [Bool.eq_false_iff.mpr counted] at count
        simp only [Bool.false_eq_true, if_false] at count
        omega
    · exact (good.within teacherId).2
  · constructor
    · intro teacherId unlocked
      have count := counts teacherId
      by_cases counted : new.counts teacherId = true
      · rcases may teacherId counted with before | ⟨lock, -⟩
        · rw [counted, before] at count
          exact Nat.le_of_eq (Nat.add_right_cancel count)
        · exact absurd lock unlocked
      · rw [Bool.eq_false_iff.mpr counted] at count
        simp only [Bool.false_eq_true, if_false] at count
        omega
    · exact fun _ _ => Nat.le_refl _
    · intro id unlocked
      have different : id ≠ new.id := by
        rintro rfl
        exact unlocked locked
      exact get_replace_of_ne new different
    · exact fun _ _ => rfl
    · intro id row read
      by_cases same : id = new.id
      · subst same
        rw [found] at read
        cases read
        exact ⟨new, get_replace_self new found, owner⟩
      · exact ⟨row, (get_replace_of_ne new same).trans read, rfl⟩

theorem addTariff_kept (good : Good caps db) {row : Tariff}
    (fresh : db.tariff? row.id = none) (locked : CatalogLock.tariff row.id ∈ held)
    (counted : CatalogLock.tierCap row.teacherId ∈ held)
    (room : Within (caps row.teacherId).maxTariffs
      (db.countActiveTariffsForTeacher row.teacherId + 1)) :
    (contract caps).Good (catalogStore.applyAll db [.tariff (.insert row)]) ∧
      (contract caps).Guarantee session held db
        (catalogStore.applyAll db [.tariff (.insert row)]) := by
  have counts : ∀ teacherId,
      (catalogStore.applyAll db [.tariff (.insert row)]).countActiveTariffsForTeacher teacherId =
        db.countActiveTariffsForTeacher teacherId + if row.counts teacherId then 1 else 0 :=
    fun teacherId => length_filter_insert Tariff.id (fun row : Tariff => row.counts teacherId) row
  constructor
  · refine ⟨good.packageUnique, good.tariffUnique.insert fresh, fun teacherId => ⟨?_, ?_⟩⟩
    · exact (good.within teacherId).1
    · rw [counts]
      by_cases mine : row.teacherId = teacherId
      · rw [← mine]
        refine Within.mono ?_ room
        split <;> omega
      · have other : row.counts teacherId = false := by simp [Tariff.counts, mine]
        rw [other]
        exact (good.within teacherId).2
  · constructor
    · exact fun _ _ => Nat.le_refl _
    · intro teacherId unlocked
      have mine : row.teacherId ≠ teacherId := by
        rintro rfl
        exact unlocked counted
      have other : row.counts teacherId = false := by simp [Tariff.counts, mine]
      rw [counts, other]
      exact Nat.le_refl _
    · exact fun _ _ => rfl
    · intro id unlocked
      have different : id ≠ row.id := by
        rintro rfl
        exact unlocked locked
      exact get_apply_of_ne (.insert row) different
    · exact fun _ row read => ⟨row, read, rfl⟩

theorem archiveTariff_kept (good : Good caps db) {old new : Tariff}
    (found : db.tariff? new.id = some old) (archived : new.deletedAt.isSome)
    (locked : CatalogLock.tariff new.id ∈ held) :
    (contract caps).Good (catalogStore.applyAll db [.tariff (.replace new)]) ∧
      (contract caps).Guarantee session held db
        (catalogStore.applyAll db [.tariff (.replace new)]) := by
  have fewer : ∀ teacherId,
      (catalogStore.applyAll db [.tariff (.replace new)]).countActiveTariffsForTeacher teacherId ≤
        db.countActiveTariffsForTeacher teacherId := by
    intro teacherId
    have count : (catalogStore.applyAll db
          [.tariff (.replace new)]).countActiveTariffsForTeacher teacherId +
          (if old.counts teacherId then 1 else 0) =
        db.countActiveTariffsForTeacher teacherId + if new.counts teacherId then 1 else 0 :=
      length_filter_replace (fun row : Tariff => row.counts teacherId) good.tariffUnique found
    have gone : new.counts teacherId = false := by
      simp [Tariff.counts, Option.isNone_eq_false_iff.mpr archived]
    rw [gone] at count
    simp only [Bool.false_eq_true, if_false] at count
    omega
  constructor
  · refine ⟨good.packageUnique, good.tariffUnique.replace new, fun teacherId => ⟨?_, ?_⟩⟩
    · exact (good.within teacherId).1
    · exact Within.mono (fewer teacherId) (good.within teacherId).2
  · constructor
    · exact fun _ _ => Nat.le_refl _
    · exact fun teacherId _ => fewer teacherId
    · exact fun _ _ => rfl
    · intro id unlocked
      have different : id ≠ new.id := by
        rintro rfl
        exact unlocked locked
      exact get_replace_of_ne new different
    · exact fun _ row read => ⟨row, read, rfl⟩

/-! ## The routes -/

abbrev Safe (caps : RowId -> TierWriteCaps) (session : Nat) : CatalogProgram ->
    List CatalogLock -> List CatalogWrite -> CatalogDb -> Prop :=
  (contract caps).Safe catalogStore StillActive session

theorem internalError_safe (held : List CatalogLock) (pending : List CatalogWrite)
    (db : CatalogDb) : Safe caps session CatalogProgram.internalError held pending db := trivial

private theorem always_stable (held : List CatalogLock) :
    (contract caps).Stable catalogStore session held fun _ => True :=
  Contract.Stable.const session held True

theorem lockTierCap_safe {teacherId : RowId} {next : CatalogProgram} (went : ∀ now, Good caps now ->
      Safe caps session next [.tierCap teacherId] [] now) (db : CatalogDb) :
    Safe caps session (CatalogProgram.lockTierCap teacherId next) [] [] db := by
  apply Contract.Safe.reading _ (always_stable []) trivial
  · exact fun now _ => internalError_safe _ _ now
  · intro now _ good _
    apply Contract.Safe.acquiring _ (always_stable []) trivial
    · exact fun now _ => internalError_safe _ _ now
    · exact fun later _ good _ => went later good

theorem rollback_safe {reply : CatalogReply} (held : List CatalogLock)
    (pending : List CatalogWrite) (db : CatalogDb) :
    Safe caps session (.rollback (.done reply)) held pending db :=
  fun _ _ _ => trivial

theorem inserting_safe {locks : List CatalogLock} {onRaise : String -> CatalogProgram}
    {raises : CatalogDb -> Option String} {write : CatalogWrite} {next : CatalogProgram}
    (P : CatalogDb -> Prop) (stable : (contract caps).Stable catalogStore session held P)
    (start : P db) (raised : ∀ code now, Good caps now ->
      Safe caps session (onRaise code) [] [] now)
    (went : ∀ now, P now -> Good caps now -> raises now = none ->
      Safe caps session next (locks ++ held) [write] now) :
    Safe caps session (CatalogProgram.inserting locks onRaise raises write next) held [] db := by
  apply Contract.Safe.statement P stable start
  · exact fun now _ _ => internalError_safe _ _ now
  · intro now holds good _
    dsimp only [catalogStore, Store.applyAll, List.foldl_nil, List.nil_append]
    cases free : raises now with
    | some code =>
      apply Contract.Safe.rollback _ (always_stable _) trivial
      exact fun later _ good => raised code later good
    | none =>
      simp only [Option.isSome_none, Bool.false_eq_true, if_false]
      exact went now holds good free

/-! ### Adding a package -/

theorem packageRaised_safe (code : String) (db : CatalogDb) :
    Safe caps session (CatalogProgram.packageRaised code) [] [] db := by
  unfold CatalogProgram.packageRaised
  split
  · trivial
  · split
    · trivial
    · exact internalError_safe _ _ _

theorem newPackage_row {input : NewPackage} {id : RowId} {row : LessonPackage}
    (made : input.row id = .ok row) : row.id = id ∧ row.teacherId = input.teacherId := by
  simp only [NewPackage.row, bind, Except.bind] at made
  split at made
  · cases made
  split at made
  · cases made
  split at made
  · cases made
  split at made
  · cases made
  split at made
  · cases made
    exact ⟨rfl, rfl⟩
  · cases made

theorem createPackageTx_safe {id : RowId} {input : NewPackage} {reply : CatalogReply}
    {number : Nat} (room : Within (caps input.teacherId).maxPackages (number + 1))
    (fewer : db.countActivePackagesByTeacher input.teacherId ≤ number) : Safe caps session
      (CatalogProgram.createPackageTx id input CatalogProgram.packageRaised
        (.commit CatalogProgram.internalError (.done reply))) [.tierCap input.teacherId] [] db := by
  unfold CatalogProgram.createPackageTx
  cases made : input.row id with
  | error code =>
    apply Contract.Safe.rollback _ (always_stable _) trivial
    exact fun now _ _ => packageRaised_safe code now
  | ok row =>
    rcases newPackage_row made with ⟨key, owner⟩
    have counted : CatalogLock.tierCap input.teacherId ∈
        [CatalogLock.tierCap input.teacherId] := List.mem_singleton_self _
    apply inserting_safe _ (stable_packages counted number) fewer
    · exact fun code now _ => packageRaised_safe code now
    · intro now fewer _ free
      have absent : now.package? id = none := by
        by_contra present
        rw [if_pos (by simp [Option.isSome_iff_ne_none.mpr present])] at free
        cases free
      have locked : CatalogLock.package id ∈
          [CatalogLock.package id, .packageSlug row.teacherId row.slug] ++
            [CatalogLock.tierCap input.teacherId] := List.mem_cons_self
      apply Contract.Safe.last _
        (((stable_packages counted number).append _).and (stable_package locked none))
        ⟨fewer, absent⟩
      · rintro later ⟨fewer, absent⟩ good
        apply addPackage_kept good
        · rw [key]
          exact absent
        · rw [key]
          exact locked
        · rw [owner]
          exact List.mem_append_right _ counted
        · rw [owner]
          exact Within.mono (Nat.succ_le_succ fewer) room
      · exact fun _ _ => trivial
      · exact fun later _ => internalError_safe _ _ later

theorem addPackage_safe (input : NewPackage) (db : CatalogDb) :
    Safe caps session (CatalogProgram.addPackage session (caps input.teacherId) input) [] []
      db := by
  apply lockTierCap_safe
  intro now _
  split
  · exact rollback_safe _ _ _
  · apply Contract.Safe.reading _ (always_stable _) trivial
    · exact fun later _ => internalError_safe _ _ later
    · intro later _ _ _
      dsimp only
      split
      · exact rollback_safe _ _ _
      · next room =>
        exact createPackageTx_safe (within_of_not_reached room) (Nat.le_refl _)

theorem postPackage_safe (teacherId : RowId) (body : PackageBody) (db : CatalogDb) :
    Safe caps session (CatalogProgram.postPackage session (caps teacherId) teacherId body) [] []
      db := by
  unfold CatalogProgram.postPackage
  split
  · split
    · trivial
    · exact addPackage_safe _ db
  · trivial

/-! ### Editing a package -/

theorem apply_counts (patch : PackagePatch) (row : LessonPackage) (teacherId : RowId)
    (counted : (patch.apply row).counts teacherId = true) :
    row.teacherId = teacherId ∧ row.deletedAt.isNone = true ∧
      (patch.isActive.getD row.isActive) = true := by
  simp only [LessonPackage.counts, PackagePatch.apply, Bool.and_eq_true] at counted
  exact ⟨of_decide_eq_true counted.1.1, counted.2, counted.1.2⟩

theorem edited_safe (updated : Option LessonPackage) (held : List CatalogLock)
    (pending : List CatalogWrite) (db : CatalogDb) :
    Safe caps session (CatalogProgram.edited updated) held pending db := by
  cases updated with
  | none => trivial
  | some row => trivial

theorem updatePackageMetadata_safe {label : CatalogLabel} {id : RowId} {patch : PackagePatch}
    (P : CatalogDb -> Prop) (stable : (contract caps).Stable catalogStore session held P)
    (start : P db) (may : ∀ now row, P now -> StillActive label now -> now.package? id = some row ->
      ∀ teacherId, (patch.apply row).counts teacherId = true ->
        row.counts teacherId = true ∨ ∀ later, P later ->
          CatalogLock.tierCap teacherId ∈ held ∧ Within (caps teacherId).maxPackages
            (later.countActivePackagesByTeacher teacherId + 1)) : Safe caps session
      (CatalogProgram.updatePackageMetadata label id patch fun updated =>
        .commit CatalogProgram.internalError (CatalogProgram.edited updated)) held [] db := by
  have nothing : ∀ (more : List CatalogLock) (updated : Option LessonPackage) now,
      Safe caps session (.commit CatalogProgram.internalError (CatalogProgram.edited updated))
        more [] now := by
    intro more updated now
    apply Contract.Safe.last _ (always_stable _) trivial
    · exact fun later _ good => nothing_kept good
    · exact fun later _ => edited_safe updated _ _ later
    · exact fun later _ => internalError_safe _ _ later
  unfold CatalogProgram.updatePackageMetadata
  split
  · apply Contract.Safe.reading _ (always_stable _) trivial
    · exact fun now _ => internalError_safe _ _ now
    · exact fun now _ _ _ => nothing held _ now
  split
  · exact rollback_safe _ _ _
  · apply Contract.Safe.statement P stable start
    · exact fun now _ _ => internalError_safe _ _ now
    · intro now holds _ allowed
      dsimp only [Store.applyAll, List.foldl_nil]
      cases read : now.package? id with
      | none => exact nothing _ _ now
      | some row =>
        have key : row.id = id := key_of_get read
        have locked : CatalogLock.package id ∈ [CatalogLock.package id] ++ held :=
          List.mem_cons_self
        apply Contract.Safe.last _ ((stable.append _).and (stable_package locked (some row)))
          ⟨holds, read⟩
        · rintro later ⟨holding, readLater⟩ good
          have sameKey : (patch.apply row).id = id := key
          apply editPackage_kept good
          · rw [sameKey]
            exact readLater
          · rfl
          · rw [sameKey]
            exact locked
          · intro teacherId counted
            rcases may now row holds allowed read teacherId counted with before | room
            · exact Or.inl before
            · rcases room later holding with ⟨lock, room⟩
              exact Or.inr ⟨List.mem_append_right _ lock, room⟩
        · exact fun later _ => edited_safe _ _ _ later
        · exact fun later _ => internalError_safe _ _ later

theorem reactivatePackage_safe {teacherId id : RowId} {patch : PackagePatch} {db : CatalogDb}
    (mine : ∃ row, db.package? id = some row ∧ row.teacherId = teacherId) :
    Safe caps session (CatalogProgram.reactivatePackage (caps teacherId) teacherId id patch) [] []
      db := by
  have owner : ∀ held, (contract caps).Stable catalogStore session held fun db =>
      ∃ row, db.package? id = some row ∧ row.teacherId = teacherId :=
    fun _ => stable_owner id teacherId
  apply Contract.Safe.reading _ (owner []) mine
  · exact fun now _ => internalError_safe _ _ now
  intro now mine _ _
  apply Contract.Safe.acquiring _ (owner []) mine
  · exact fun now _ => internalError_safe _ _ now
  intro now mine _ _
  split
  · exact rollback_safe _ _ _
  apply Contract.Safe.reading _ (owner _) mine
  · exact fun later _ => internalError_safe _ _ later
  intro later mine _ _
  dsimp only
  split
  · exact rollback_safe _ _ _
  next room =>
    have counted : CatalogLock.tierCap teacherId ∈ [CatalogLock.tierCap teacherId] ++ [] :=
      List.mem_cons_self
    apply updatePackageMetadata_safe _ ((owner _).and (stable_packages counted
      (later.countActivePackagesByTeacher teacherId))) ⟨mine, Nat.le_refl _⟩
    rintro found row ⟨⟨other, readOther, same⟩, -⟩ - read teacher counts
    rw [read] at readOther
    cases readOther
    rcases apply_counts patch row teacher counts with ⟨rfl, -, -⟩
    rw [same]
    right
    rintro last ⟨-, fewer⟩
    exact ⟨counted, Within.mono (Nat.succ_le_succ fewer) (within_of_not_reached room)⟩

theorem editPackage_safe (id : RowId) (patch : PackagePatch) (db : CatalogDb) :
    Safe caps session (CatalogProgram.editPackage id patch) [] [] db := by
  apply updatePackageMetadata_safe _ (always_stable []) trivial
  intro now row _ allowed read teacherId counts
  rcases apply_counts patch row teacherId counts with ⟨owner, kept, active⟩
  left
  have still : row.isActive = true := by
    cases asked : patch.isActive with
    | none =>
      rw [asked] at active
      exact active
    | some flag =>
      rw [asked] at active
      rw [show flag = true from active] at asked
      rw [if_pos asked] at allowed
      rcases allowed row read with still | deleted
      · exact still
      · rw [Option.isNone_iff_eq_none.mp kept] at deleted
        cases deleted
  simp [LessonPackage.counts, owner, still, kept]

theorem patchPackage_safe (teacherId id : RowId) (body : PatchBody) (db : CatalogDb) :
    Safe caps session (CatalogProgram.patchPackage (caps teacherId) teacherId id body) [] []
      db := by
  apply Contract.Safe.reading _ (always_stable []) trivial
  · exact fun now _ => internalError_safe _ _ now
  intro now _ _ _
  split
  · trivial
  next existing read =>
    split
    · trivial
    next mine =>
      split
      · trivial
      next patch _ =>
        split
        · trivial
        split
        · exact reactivatePackage_safe ⟨existing, read, of_not_not mine⟩
        · exact editPackage_safe id patch now

/-! ### Tariffs -/

theorem newTariff_row {input : NewTariff} {id : RowId} {slug : String} {row : Tariff}
    (made : input.row id slug = .ok row) : row.id = id ∧ row.teacherId = input.teacherId := by
  simp only [NewTariff.row, bind, Except.bind] at made
  split at made
  · cases made
  split at made
  · cases made
    exact ⟨rfl, rfl⟩
  · cases made

theorem createTariffForTeacherTx_safe {id : RowId} {slug : String} {input : NewTariff}
    {onRaise : String -> CatalogProgram} {reply : CatalogReply} {number : Nat}
    (room : Within (caps input.teacherId).maxTariffs (number + 1))
    (fewer : db.countActiveTariffsForTeacher input.teacherId ≤ number)
    (raised : ∀ code now, Safe caps session (onRaise code) [] [] now) : Safe caps session
      (CatalogProgram.createTariffForTeacherTx id slug input onRaise
        (.commit CatalogProgram.internalError (.done reply)))
      ([.tierCap input.teacherId] ++ []) [] db := by
  unfold CatalogProgram.createTariffForTeacherTx
  cases made : input.row id slug with
  | error code =>
    apply Contract.Safe.rollback _ (always_stable _) trivial
    exact fun now _ _ => raised code now
  | ok row =>
    rcases newTariff_row made with ⟨key, owner⟩
    have counted : CatalogLock.tierCap input.teacherId ∈
        [CatalogLock.tierCap input.teacherId] ++ [] := List.mem_cons_self
    apply inserting_safe _ (stable_tariffs counted number) fewer
    · exact fun code now _ => raised code now
    · intro now fewer _ free
      have absent : now.tariff? id = none := by
        by_contra present
        rw [if_pos (by simp [Option.isSome_iff_ne_none.mpr present])] at free
        cases free
      have locked : CatalogLock.tariff id ∈ [CatalogLock.tariff id, .tariffSlug slug] ++
          ([CatalogLock.tierCap input.teacherId] ++ []) := List.mem_cons_self
      apply Contract.Safe.last _
        (((stable_tariffs counted number).append _).and (stable_tariff locked none))
        ⟨fewer, absent⟩
      · rintro later ⟨fewer, absent⟩ good
        apply addTariff_kept good
        · rw [key]
          exact absent
        · rw [key]
          exact locked
        · rw [owner]
          exact List.mem_append_right _ counted
        · rw [owner]
          exact Within.mono (Nat.succ_le_succ fewer) room
      · exact fun _ _ => trivial
      · exact fun later _ => internalError_safe _ _ later

theorem addTariff_safe (input : NewTariff) (nonces : List String) (attempt : Nat) (db : CatalogDb) :
    Safe caps session
      (CatalogProgram.addTariff session (caps input.teacherId) input attempt nonces) [] [] db := by
  induction nonces generalizing attempt db with
  | nil => trivial
  | cons nonce nonces again =>
    unfold CatalogProgram.addTariff
    apply lockTierCap_safe
    intro now _
    split
    · exact rollback_safe _ _ _
    · apply Contract.Safe.reading _ (always_stable _) trivial
      · exact fun later _ => internalError_safe _ _ later
      · intro later _ _ _
        dsimp only
        split
        · exact rollback_safe _ _ _
        · next room =>
          apply createTariffForTeacherTx_safe (within_of_not_reached room) (Nat.le_refl _)
          intro code last
          split
          · exact again (attempt + 1) last
          · exact internalError_safe _ _ last

theorem postTariff_safe (teacherId : RowId) (body : TariffBody)
    (nonces : String × String × String) (db : CatalogDb) :
    Safe caps session (CatalogProgram.postTariff session (caps teacherId) teacherId body nonces)
      [] [] db := by
  unfold CatalogProgram.postTariff
  split
  · split
    · exact addTariff_safe ⟨teacherId, _, _, _, _, _, _⟩ _ 0 db
    · trivial
    · exact internalError_safe _ _ db
  · trivial

theorem archiveTariff_safe (teacherId id : RowId) (db : CatalogDb) :
    Safe caps session (CatalogProgram.archiveTariff teacherId id) [] [] db := by
  apply Contract.Safe.statement _ (always_stable []) trivial
  · exact fun now _ _ => internalError_safe _ _ now
  intro now _ _ _
  dsimp only [Store.applyAll, List.foldl_nil]
  cases found : (now.tariff? id).filter fun row =>
      row.teacherId = teacherId && row.deletedAt.isNone with
  | none =>
    apply Contract.Safe.last _ (always_stable _) trivial
    · exact fun later _ good => nothing_kept good
    · exact fun _ _ => trivial
    · exact fun later _ => internalError_safe _ _ later
  | some row =>
    have read := (Option.filter_eq_some_iff.mp found).1
    have key : row.id = id := key_of_get read
    have locked : CatalogLock.tariff id ∈ [CatalogLock.tariff id] ++ [] := List.mem_cons_self
    apply Contract.Safe.last _ (stable_tariff locked (some row)) read
    · intro later readLater good
      apply @archiveTariff_kept caps session _ later good row
      · dsimp only
        rw [key]
        exact readLater
      · rfl
      · dsimp only
        rw [key]
        exact locked
    · exact fun _ _ => trivial
    · exact fun later _ => internalError_safe _ _ later

section Runs

variable {subscriptions : RowId -> Option TeacherSubscription}
  {requests : Nat -> RowId × Request} {state : CatalogState}

theorem request_safe (request : Request) (teacherId : RowId) (db : CatalogDb) :
    Safe caps session (request.program session (caps teacherId) teacherId) [] [] db := by
  cases request with
  | postPackage body => exact postPackage_safe teacherId body db
  | patchPackage id body => exact patchPackage_safe teacherId id body db
  | postTariff body nonces => exact postTariff_safe teacherId body nonces db
  | archiveTariff id => exact archiveTariff_safe teacherId id db

/-- A catalogue in which rows have keys of their own and every teacher is within the caps. -/
abbrev Opening (subscriptions : RowId -> Option TeacherSubscription) (db : CatalogDb) : Prop :=
  Good (fun teacherId => resolveTeacherWriteCaps (subscriptions teacherId)) db

/-- While no edit activates a package it has found active, everybody stays within the caps. -/
theorem write_caps_kept (start : Opening subscriptions db)
    (reached : Reaches catalogStore StillActive (opening db subscriptions requests) state)
    (teacherId : RowId) :
    state.db.WithinCaps (resolveTeacherWriteCaps (subscriptions teacherId)) teacherId := by
  have sound : Contract.Sound
      (contract fun teacherId => resolveTeacherWriteCaps (subscriptions teacherId)) catalogStore
      StillActive (opening db subscriptions requests) :=
    Contract.Sound.start start fun session =>
      @request_safe (fun teacherId => resolveTeacherWriteCaps (subscriptions teacherId)) session
        (requests session).2 (requests session).1 db
  exact (sound.reaches (steady _) reached).1.good.within teacherId

end Runs

def freeTeacher : RowId := .seeded 7

def freeTier : RowId -> Option TeacherSubscription :=
  fun _ => some ⟨"free", "active"⟩

def onlyPackage : LessonPackage where
  id := .seeded 1
  teacherId := freeTeacher
  slug := "first"
  titleRu := "Первый"
  descriptionRu := none
  durationMinutes := 60
  count := 5
  amountKopecks := 500000
  isActive := true
  displayOrder := 100
  deletedAt := none

def onePackage : CatalogDb := ⟨[onlyPackage], [], 0⟩

theorem onePackage_opening : Opening freeTier onePackage where
  packageUnique := by simp [Tables.Unique, onePackage]
  tariffUnique := List.nodup_nil
  within := by
    intro teacherId
    constructor
    · by_cases mine : freeTeacher = teacherId
      · rw [← mine]
        exact Nat.le_refl 1
      · have none_counted : onePackage.countActivePackagesByTeacher teacherId = 0 := by
          simp [CatalogDb.countActivePackagesByTeacher, onePackage, onlyPackage, mine]
        rw [none_counted]
        exact Nat.zero_le 1
    · exact Nat.zero_le 1

def setActive (flag : Bool) : Request :=
  .patchPackage onlyPackage.id ⟨none, none, some flag, none, none⟩

def secondPackage : Request :=
  .postPackage
    { slug := some "second"
      titleRu := some "Второй"
      descriptionRu := none
      durationMinutes := some (.integer 60)
      count := some (.integer 5)
      amountKopecks := some (.integer 500000)
      isActive := none
      displayOrder := none
      namesTeacher := false }

/-- The package is activated, archived and replaced by another one at the same time. -/
def threeRequests : Nat -> RowId × Request
  | 0 => (freeTeacher, setActive true)
  | 1 => (freeTeacher, setActive false)
  | _ => (freeTeacher, secondPackage)

def turns (session count : Nat) : List CatalogEvent :=
  Event.steps session count ()

/-- The first request has found the package active before it is archived, and writes the
flag after another package has taken its place. -/
theorem write_caps_exceeded :
    ¬ ∀ (subscriptions : RowId -> Option TeacherSubscription) (db : CatalogDb)
      (requests : Nat -> RowId × Request) (state : CatalogState), Opening subscriptions db ->
      Reaches catalogStore (fun _ _ => True) (opening db subscriptions requests) state ->
        ∀ teacherId,
          state.db.WithinCaps (resolveTeacherWriteCaps (subscriptions teacherId)) teacherId := by
  intro within
  rcases exists_of_play catalogStore (opening onePackage freeTier threeRequests)
    (turns 0 1 ++ turns 1 3 ++ turns 2 5 ++ turns 0 2)
    (fun db => db.countActivePackagesByTeacher freeTeacher = 2) (by decide +kernel)
    with ⟨state, reached, two⟩
  have most := (within freeTier onePackage threeRequests state onePackage_opening reached
    freeTeacher).1
  rw [two] at most
  have tooMany : 2 ≤ 1 := most
  omega

instance (label : CatalogLabel) (db : CatalogDb) : Decidable (StillActive label db) :=
  match label with
  | .plain => isTrue trivial
  | .overwrite id =>
    decidable_of_iff ((db.package? id).all fun row => row.isActive || row.deletedAt.isSome)
      (by simp [StillActive, Option.all_eq_true])

/-- The first request writes its flag while the package is still active; then the package is
archived, and the third request finds room. -/
theorem write_caps_kept_free : ∃ state : CatalogState,
      Reaches catalogStore StillActive (opening onePackage freeTier threeRequests) state ∧
      state.db.countActivePackagesByTeacher freeTeacher = 1 ∧ state.db.packages.length = 2 ∧
      state.db.WithinCaps (resolveTeacherWriteCaps (freeTier freeTeacher)) freeTeacher := by
  rcases exists_of_playAllowed catalogStore StillActive
    (opening onePackage freeTier threeRequests) (turns 0 3 ++ turns 1 3 ++ turns 2 5)
    (fun db => db.countActivePackagesByTeacher freeTeacher == 1 && db.packages.length == 2)
    (by decide +kernel) with ⟨state, reached, counted⟩
  simp only [Bool.and_eq_true, beq_iff_eq] at counted
  exact ⟨state, reached, counted.1, counted.2,
    write_caps_kept onePackage_opening reached freeTeacher⟩

end LevelChannel.WriteCaps
