import LevelChannel.Scheduling.Writes

namespace LevelChannel.Scheduling

open ReadCommitted Tables

/-!
# What a session's locks keep in view

Two states agree for a session if it cannot tell them apart as far as its locks reach.
Other sessions only ever lead to such a state, and writing the same row in both keeps
them so.  This makes the write rules a discipline.
-/

variable {terms : Terms} {session : Nat} {held : List Lock}

/-- The states look alike through the locks. -/
structure Agrees (terms : Terms) (held : List Lock) (first second : Db) : Prop where
  slots : ∀ id row, WriteLocked held (.slot id) -> first.slot? id = some row ->
    second.slot? id = some row
  minted : ∀ id, WriteLocked held (.slot id) -> id.minter.isSome ->
    first.slot? id = none -> second.slot? id = none
  completions : ∀ id, WriteLocked held (.completion id) ->
    second.completion? id = first.completion? id
  flags : ∀ slotId, WriteLocked held (.slot slotId) -> ∀ completionId,
    flag second slotId completionId = flag first slotId completionId
  covered : ∀ id, (LockTarget.completion id).forUpdate ∈ held ->
    second.covered id = first.covered id
  erasures : ∀ erasure, erasure ∈ first.erasures -> erasure ∈ second.erasures
  clock : first.clock ≤ second.clock
  purchases : ∀ id, WriteLocked held (.purchase id) ->
    second.purchase? id = first.purchase? id
  repackaged : ∀ id row, first.purchase? id = some row ->
    ∃ now, second.purchase? id = some now ∧ Repackages row now
  consumptions : ∀ slotId, WriteLocked held (.consumption slotId) ->
    second.consumption? slotId = first.consumption? slotId
  counts : terms.canonical -> ∀ id row, first.purchase? id = some row ->
    WriteLocked held (.advisory (.pkgConsume (.canonical row.accountId))) ->
      second.activeCount id ≤ first.activeCount id

theorem Agrees.narrow {more : List Lock} (wider : ∀ lock, lock ∈ held -> lock ∈ more)
    {first second : Db} (agree : Agrees terms more first second) : Agrees terms held first second :=
  { agree with
    slots := fun id row locked => agree.slots id row (locked.mono wider)
    minted := fun id locked => agree.minted id (locked.mono wider)
    completions := fun id locked => agree.completions id (locked.mono wider)
    flags := fun id locked => agree.flags id (locked.mono wider)
    covered := fun id locked => agree.covered id (wider _ locked)
    purchases := fun id locked => agree.purchases id (locked.mono wider)
    consumptions := fun id locked => agree.consumptions id (locked.mono wider)
    counts := fun canonical id row read locked =>
      agree.counts canonical id row read (locked.mono wider) }

theorem Same.agrees {before after : Db} (slots : after.slots = before.slots)
    (completions : after.completions = before.completions)
    (covered : after.settlementCompletions = before.settlementCompletions)
    (erasures : after.erasures = before.erasures) (purchases : after.purchases = before.purchases)
    (consumptions : after.consumptions = before.consumptions)
    (clock : before.clock ≤ after.clock) : Agrees terms held before after where
  slots _ _ _ read := by rwa [Db.slot?, slots]
  minted _ _ _ read := by rwa [Db.slot?, slots]
  completions id _ := by rw [Db.completion?, Db.completion?, completions]
  flags slotId _ id := flag_congr completions slotId id
  covered id _ := by rw [Db.covered, Db.covered, covered]
  erasures erasure member := by rwa [erasures]
  clock := clock
  purchases id _ := by rw [Db.purchase?, Db.purchase?, purchases]
  repackaged id row read := ⟨row, by rwa [Db.purchase?, purchases], Repackages.refl row⟩
  consumptions slotId _ := by rw [Db.consumption?, Db.consumption?, consumptions]
  counts _ id _ _ _ := Nat.le_of_eq (activeCount_congr consumptions id)

theorem agrees_openSlot (db : Db) (row : LessonSlot) :
    Agrees terms held db (db.drift (.slot row)) := by
  simp only [Db.drift]
  split
  · rename_i opened
    simp only [Bool.and_eq_true, Option.isNone_iff_eq_none] at opened
    exact
      { (Same.agrees rfl rfl rfl rfl rfl rfl (Nat.le_refl _) : Agrees terms held db db) with
        slots := fun _ _ _ read => get_insert_of_some row read
        minted := by
          intro id _ minted absent
          have different : row.id ≠ id := by
            intro same
            rw [← same, opened.1.2] at minted
            cases minted
          have read : get LessonSlot.id db.slots id = none := absent
          have inserted : get LessonSlot.id ((Change.insert row).apply LessonSlot.id db.slots) id =
              (get LessonSlot.id db.slots id).or (if row.id = id then some row else none) :=
            get_insert row
          rw [read, if_neg different] at inserted
          exact inserted }
  · exact Same.agrees rfl rfl rfl rfl rfl rfl (Nat.le_refl _)

theorem agrees_drift (db : Db) (change : Drift) : Agrees terms held db (db.drift change) := by
  cases change with
  | tick milliseconds => exact Same.agrees rfl rfl rfl rfl rfl rfl (Nat.le_add_right _ _)
  | catalog catalog => exact Same.agrees rfl rfl rfl rfl rfl rfl (Nat.le_refl _)
  | slot row => exact agrees_openSlot db row
  | order change => exact Same.agrees rfl rfl rfl rfl rfl rfl (Nat.le_refl _)
  | allocation row =>
    simp only [Db.drift, Db.allocate]
    split <;> exact Same.agrees rfl rfl rfl rfl rfl rfl (Nat.le_refl _)
  | earning row => exact Same.agrees rfl rfl rfl rfl rfl rfl (Nat.le_refl _)

theorem covered_of_guarantee {theirs : List Lock} {before after : Db}
    (apart : store.Compatible held theirs) (kept : LessonsKept terms theirs before after)
    {id : RowId} (locked : (LockTarget.completion id).forUpdate ∈ held) :
    after.covered id = before.covered id := by
  rcases kept.covered with ⟨new, grown, lockedNew⟩
  have others : new.any (fun row => row.completionId = id) = false := by
    rw [List.any_eq_false]
    intro row member
    rcases lockedNew row member with ⟨lock, theirLock, target⟩
    have free := apart _ locked lock theirLock
    simp only [decide_eq_true_eq]
    intro same
    have clash : Lock.conflict (LockTarget.completion id).forUpdate lock = true := by
      simp [Lock.conflict, LockTarget.forUpdate, target, same, LockMode.conflicts]
    exact absurd (free.symm.trans clash) (by decide)
  rw [Db.covered, grown, List.any_append, others, Bool.or_false]
  rfl

theorem agrees_of_guarantee {theirs : List Lock} {before after : Db}
    (apart : store.Compatible held theirs) (kept : Guarantee terms theirs before after) :
    Agrees terms held before after where
  slots id _ locked read := (kept.lessons.slots id (locked.excludes apart)).trans read
  minted id locked _ read := (kept.lessons.slots id (locked.excludes apart)).trans read
  completions id locked := kept.lessons.completions id (locked.excludes apart)
  flags slotId locked := kept.lessons.flags slotId (locked.excludes apart)
  covered _ locked := covered_of_guarantee apart kept.lessons locked
  erasures := kept.lessons.erasures
  clock := Nat.le_of_eq kept.clock.symm
  purchases id locked := kept.packages.purchases id (locked.excludes apart)
  repackaged := kept.packages.repackaged
  consumptions slotId locked := kept.packages.consumptions slotId (locked.excludes apart)
  counts canonical id row read locked :=
    kept.packages.counts canonical id row read (locked.excludes apart)

theorem agrees_of_disturbs {before after : Db}
    (disturbed : (contract terms).Disturbs store session held before after) :
    Agrees terms held before after := by
  rcases disturbed with ⟨-, -, ⟨change, rfl⟩ | ⟨other, theirs, -, apart, kept⟩⟩
  · exact agrees_drift before change
  · exact agrees_of_guarantee apart kept

section Transfer

variable {first second : Db}

theorem agrees_insertSlot (agree : Agrees terms held first second) {row : LessonSlot}
    (one : first.slot? row.id = none) (two : second.slot? row.id = none) :
    Agrees terms held (first.apply (.slot (.insert row))) (second.apply (.slot (.insert row))) :=
  { agree with
    slots := by
      intro id old locked
      rw [slot?_insert one, slot?_insert two]
      split
      · exact fun same => same
      · exact agree.slots _ old locked
    minted := by
      intro id locked minted
      rw [slot?_insert one, slot?_insert two]
      split
      · exact fun same => same
      · exact agree.minted _ locked minted }

theorem agrees_replaceSlot (agree : Agrees terms held first second) {row old older : LessonSlot}
    (one : first.slot? row.id = some old) (two : second.slot? row.id = some older) :
    Agrees terms held (first.apply (.slot (.replace row))) (second.apply (.slot (.replace row))) :=
  { agree with
    slots := by
      intro id found locked
      rw [slot?_replace one, slot?_replace two]
      split
      · exact fun same => same
      · exact agree.slots _ found locked
    minted := by
      intro id locked minted
      rw [slot?_replace one, slot?_replace two]
      split
      · exact fun same => same
      · exact agree.minted _ locked minted }

theorem agrees_changeCompletion (agree : Agrees terms held first second)
    (change : Change LessonCompletion)
    (alike : (second.apply (.completion change)).completion? change.row.id =
      (first.apply (.completion change)).completion? change.row.id) :
    Agrees terms held (first.apply (.completion change)) (second.apply (.completion change)) := by
  have away : ∀ db id, id ≠ change.row.id ->
      (Db.apply db (.completion change)).completion? id = db.completion? id :=
    fun db id different => get_apply_of_ne change different
  exact
    { agree with
      completions := by
        intro id locked
        by_cases same : id = change.row.id
        · rw [same, alike]
        · rw [away _ _ same, away _ _ same]
          exact agree.completions id locked
      flags := by
        intro slotId locked id
        by_cases same : id = change.row.id
        · rw [flag, flag, same, alike]
        · rw [flag, flag, away _ _ same, away _ _ same]
          exact agree.flags slotId locked id }

theorem agrees_changePurchase (agree : Agrees terms held first second)
    (change : Change PackagePurchase) (row : PackagePurchase)
    (one : (first.apply (.purchase change)).purchase? change.row.id = some row)
    (two : (second.apply (.purchase change)).purchase? change.row.id = some row)
    (counts : terms.canonical ->
      WriteLocked held (.advisory (.pkgConsume (.canonical row.accountId))) ->
        second.activeCount change.row.id ≤ first.activeCount change.row.id) :
    Agrees terms held (first.apply (.purchase change)) (second.apply (.purchase change)) := by
  have away : ∀ db id, id ≠ change.row.id ->
      (Db.apply db (.purchase change)).purchase? id = db.purchase? id :=
    fun db id different => get_apply_of_ne change different
  exact
    { agree with
      purchases := by
        intro id locked
        by_cases same : id = change.row.id
        · rw [same, one, two]
        · rw [away _ _ same, away _ _ same]
          exact agree.purchases id locked
      repackaged := by
        intro id old read
        by_cases same : id = change.row.id
        · rw [same, one] at read
          exact ⟨row, by rw [same, two], Option.some.inj read ▸ Repackages.refl row⟩
        · rw [away _ _ same] at read
          rcases agree.repackaged id old read with ⟨now, readNow, again⟩
          exact ⟨now, by rw [away _ _ same, readNow], again⟩
      counts := by
        intro canonical id old read locked
        by_cases same : id = change.row.id
        · rw [same, one] at read
          subst same
          rw [← Option.some.inj read] at locked
          exact counts canonical locked
        · rw [away _ _ same] at read
          exact agree.counts canonical id old read locked }

theorem agrees_insertConsumption (agree : Agrees terms held first second)
    {row : PackageConsumption} (one : first.consumption? row.slotId = none)
    (two : second.consumption? row.slotId = none) :
    Agrees terms held (first.apply (.consumption (.insert row)))
      (second.apply (.consumption (.insert row))) :=
  { agree with
    consumptions := by
      intro slotId locked
      rw [consumption?_insert one, consumption?_insert two, agree.consumptions slotId locked]
    counts := by
      intro canonical id purchase read locked
      rw [activeCount_insert, activeCount_insert]
      exact Nat.add_le_add_right (agree.counts canonical id purchase read locked) _ }

theorem agrees_replaceConsumption (agree : Agrees terms held first second)
    (invFirst : Inv terms first) (invSecond : Inv terms second) {row old : PackageConsumption}
    (one : first.consumption? row.slotId = some old)
    (two : second.consumption? row.slotId = some old) (restored : row.active = false) :
    Agrees terms held (first.apply (.consumption (.replace row)))
      (second.apply (.consumption (.replace row))) :=
  { agree with
    consumptions := by
      intro slotId locked
      rw [consumption?_replace one, consumption?_replace two, agree.consumptions slotId locked]
    counts := by
      intro canonical id purchase read locked
      have before := agree.counts canonical id purchase read locked
      have left := activeCount_restore invFirst one restored id
      have right := activeCount_restore invSecond two restored id
      omega }

theorem agrees_quiet (agree : Agrees terms held first second) {write : Write}
    (quiet : Quiet write) : Agrees terms held (first.apply write) (second.apply write) := by
  have one := quiet.same first
  have two := quiet.same second
  constructor
  · simpa only [Db.slot?, one.slots, two.slots] using agree.slots
  · simpa only [Db.slot?, one.slots, two.slots] using agree.minted
  · simpa only [Db.completion?, one.completions, two.completions] using agree.completions
  · simpa only [flag_congr one.completions, flag_congr two.completions] using agree.flags
  · simpa only [Db.covered, one.covered, two.covered] using agree.covered
  · simpa only [one.erasures, two.erasures] using agree.erasures
  · simpa only [one.clock, two.clock] using agree.clock
  · simpa only [Db.purchase?, one.purchases, two.purchases] using agree.purchases
  · simpa only [Db.purchase?, one.purchases, two.purchases] using agree.repackaged
  · simpa only [Db.consumption?, one.consumptions, two.consumptions] using agree.consumptions
  · simpa only [Db.purchase?, one.purchases, activeCount_congr one.consumptions,
      activeCount_congr two.consumptions] using agree.counts

theorem Consumes.transfer (agree : Agrees terms held first second) {row : PackageConsumption}
    {slot : LessonSlot} {purchase : PackagePurchase}
    (unit : Consumes terms held first row slot purchase) :
    Consumes terms held second row slot purchase :=
  { unit with
    slotRead := agree.slots _ _ unit.slotLocked unit.slotRead
    purchaseRead := (agree.purchases _ unit.purchaseLocked).trans unit.purchaseRead
    room := by
      intro canonical
      rcases unit.room canonical with ⟨locked, room⟩
      exact ⟨locked, Nat.lt_of_le_of_lt
        (agree.counts canonical _ purchase unit.purchaseRead locked) room⟩ }

theorem Allows.transfer {write : Write} (invFirst : Inv terms first) (invSecond : Inv terms second)
    (agree : Agrees terms held first second) (allowed : Allows terms held first write) :
    Allows terms held second write ∧
      Agrees terms held (first.apply write) (second.apply write) := by
  by_cases quiet : Quiet write
  · refine ⟨?_, agrees_quiet agree quiet⟩
    cases write <;> first | trivial | exact absurd quiet (by simp [Quiet, Write.table])
  cases write with
  | slot change =>
    cases change with
    | insert row =>
      rcases allowed with ⟨locked, minted, fresh⟩
      have also := agree.minted row.id locked minted fresh
      exact ⟨⟨locked, minted, also⟩, agrees_insertSlot agree fresh also⟩
    | replace row =>
      rcases allowed with ⟨locked, old, found, stepped⟩
      have also := agree.slots row.id old locked found
      exact ⟨⟨locked, old, also, stepped⟩, agrees_replaceSlot agree found also⟩
    | delete row => exact allowed.elim
  | completion change =>
    cases change with
    | insert row =>
      rcases allowed with ⟨locked, slotLocked, fresh, free, placed⟩
      have also := (agree.completions row.id locked).trans fresh
      refine ⟨⟨locked, slotLocked, also, ?_, ?_⟩, agrees_changeCompletion agree (.insert row) ?_⟩
      · cases read : second.completionOf? row.slotId with
        | none => rfl
        | some other =>
          rcases (completionOf?_eq_some invSecond).mp read with ⟨readOther, same⟩
          have raised : flag second row.slotId other.id = some other.wasNoShow := by
            simp [flag, readOther, Option.filter, same]
          rw [agree.flags row.slotId slotLocked other.id] at raised
          cases known : first.completion? other.id with
          | none => rw [flag_of_none known] at raised; cases raised
          | some early =>
            by_cases own : early.slotId = row.slotId
            · have key : early.id = other.id := key_of_get known
              have present := (completionOf?_eq_some invFirst).mpr ⟨key ▸ known, own⟩
              rw [free] at present
              cases present
            · rw [flag_of_ne known own] at raised
              cases raised
      · rcases Option.isSome_iff_exists.mp placed with ⟨slot, read⟩
        rw [agree.slots _ slot slotLocked read]
        rfl
      · rw [Change.row, completion?_insert fresh, completion?_insert also, if_pos rfl, if_pos rfl]
    | replace row =>
      rcases allowed with ⟨locked, old, found, revises, marked⟩
      have also := (agree.completions row.id locked).trans found
      refine ⟨⟨locked, old, also, revises, marked⟩,
        agrees_changeCompletion agree (.replace row) ?_⟩
      rw [Change.row, completion?_replace found, completion?_replace also, if_pos rfl, if_pos rfl]
    | delete row =>
      rcases allowed with ⟨lock, slotLocked, read, uncovered, unstamped, erasure, listed, rest⟩
      have also := (agree.completions row.id (WriteLocked.of_mem lock)).trans read
      refine ⟨⟨lock, slotLocked, also, (agree.covered row.id lock).trans uncovered, unstamped,
        erasure, agree.erasures erasure listed, rest⟩,
        agrees_changeCompletion agree (.delete row) ?_⟩
      rw [Change.row, completion?_delete, completion?_delete, if_pos rfl, if_pos rfl]
  | purchase change =>
    cases change with
    | insert row =>
      rcases allowed with ⟨locked, fresh⟩
      have also := (agree.purchases row.id locked).trans fresh
      refine ⟨⟨locked, also⟩, agrees_changePurchase agree (.insert row) row ?_ ?_ ?_⟩
      · rw [Change.row, purchase?_insert fresh, if_pos rfl]
      · rw [Change.row, purchase?_insert also, if_pos rfl]
      · intro _ _
        rw [Change.row, activeCount_of_absent invSecond also]
        exact Nat.zero_le _
    | replace row =>
      rcases allowed with ⟨locked, old, found, again⟩
      have also := (agree.purchases row.id locked).trans found
      refine ⟨⟨locked, old, also, again⟩,
        agrees_changePurchase agree (.replace row) row ?_ ?_ ?_⟩
      · rw [Change.row, purchase?_replace found, if_pos rfl]
      · rw [Change.row, purchase?_replace also, if_pos rfl]
      · intro canonical lock
        exact agree.counts canonical row.id old found (again.accountId ▸ lock)
    | delete row => exact allowed.elim
  | consumption change =>
    cases change with
    | insert row =>
      rcases allowed with ⟨locked, fresh, slot, purchase, unit⟩
      have also := (agree.consumptions row.slotId locked).trans fresh
      exact ⟨⟨locked, also, slot, purchase, unit.transfer agree⟩,
        agrees_insertConsumption agree fresh also⟩
    | replace row =>
      rcases allowed with ⟨locked, old, found, same, restored⟩
      have also := (agree.consumptions row.slotId locked).trans found
      exact ⟨⟨locked, old, also, same, restored⟩,
        agrees_replaceConsumption agree invFirst invSecond found also restored⟩
    | delete row => exact allowed.elim
  | settlementCompletion row =>
    refine ⟨allowed, { agree with covered := ?_ }⟩
    intro id locked
    have before := agree.covered id locked
    simp only [Db.covered] at before
    simp only [Db.covered, Db.apply, List.any_append, before]
  | erasure row =>
    refine ⟨trivial, { agree with erasures := ?_ }⟩
    intro erasure member
    rcases List.mem_append.mp member with old | new
    · exact List.mem_append_left _ (agree.erasures erasure old)
    · exact List.mem_append_right _ new
  | _ => exact absurd (by simp [Quiet, Write.table]) quiet

end Transfer

end LevelChannel.Scheduling
