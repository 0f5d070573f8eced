import LevelChannel.Scheduling.Booking

namespace LevelChannel.Scheduling
namespace HeldUnits

open ReadCommitted Tables

/-!
# Slots that hold a package unit

A unit is taken by the transaction that books a slot.  From then on it stays with the
slot until somebody gives it back, and what the slot's status becomes in the meantime is
for the transactions on slots.  This module says by which rules they keep the units where
the statuses leave room for them.

The lock of the slot protects both.  Whoever changes a status holds it, and so does
whoever takes a unit; without it a unit can only be given back.  Some sessions take units
and none of those marks a teacher as absent, which is the one status that leaves a unit
where it is and should not.
-/

variable {takes : Nat -> Prop} {session : Nat} {held : List Lock} {db : Db}

/-! ## Units -/

/-- Two readings of a slot's unit: it is the same one, or it has been given back. -/
def Lapses (before after : Option PackageConsumption) : Prop :=
  after = before ∨ ∃ row, after = some row ∧ row.active = false

theorem Lapses.refl (row : Option PackageConsumption) : Lapses row row := Or.inl rfl

theorem Lapses.trans {first second third : Option PackageConsumption}
    (one : Lapses first second) (two : Lapses second third) : Lapses first third := by
  rcases two with rfl | returned
  · exact one
  · exact Or.inr returned

def Holding (db : Db) (slotId : RowId) : Prop :=
  ∃ row, db.consumption? slotId = some row ∧ row.active = true

theorem Holding.of_lapses {before after : Db} {slotId : RowId}
    (lapses : Lapses (before.consumption? slotId) (after.consumption? slotId))
    (holding : Holding after slotId) : Holding before slotId := by
  rcases holding with ⟨row, read, active⟩
  rcases lapses with same | ⟨other, found, returned⟩
  · exact ⟨row, same ▸ read, active⟩
  · rw [read] at found
    rw [Option.some.inj found, returned] at active
    cases active

def Priced (db : Db) (slotId : RowId) : Prop :=
  ∃ slot, db.slot? slotId = some slot ∧ slot.status.priced = true

/-- Units are held by priced lessons, up to the slots a transaction is at work on. -/
def HeldExcept (working : RowId -> Prop) (db : Db) : Prop :=
  ∀ slotId, ¬ working slotId -> Holding db slotId -> Priced db slotId

/-- The invariant of committed states. -/
def Held (db : Db) : Prop := HeldExcept (fun _ => False) db

theorem Held.except (units : Held db) (working : RowId -> Prop) : HeldExcept working db :=
  fun slotId _ => units slotId id

/-- What a session may do to slots and units.  Without the slot's lock it changes no slot
and takes no unit; and if it takes units at all, it leaves no slot behind marked with an
absent teacher that was not there before, with the unit it had. -/
structure Keeps (takes : Nat -> Prop) (session : Nat) (held : List Lock) (before after : Db) :
    Prop where
  slots : ∀ id, ¬ WriteLocked held (.slot id) -> after.slot? id = before.slot? id
  units : ∀ id, ¬ WriteLocked held (.slot id) ->
    Lapses (before.consumption? id) (after.consumption? id)
  idle : ¬ takes session -> ∀ id, Lapses (before.consumption? id) (after.consumption? id)
  absent : takes session -> ∀ id slot, after.slot? id = some slot ->
    slot.status = .noShowTeacher -> before.slot? id = some slot ∧
      Lapses (before.consumption? id) (after.consumption? id)
  completions : ∀ id, ¬ WriteLocked held (.completion id) ->
    after.completion? id = before.completion? id

theorem Keeps.refl (db : Db) : Keeps takes session held db db where
  slots _ _ := rfl
  units _ _ := .refl _
  idle _ _ := .refl _
  absent _ _ _ read _ := ⟨read, .refl _⟩
  completions _ _ := rfl

theorem Keeps.trans {first second third : Db} (one : Keeps takes session held first second)
    (two : Keeps takes session held second third) : Keeps takes session held first third where
  slots id free := (two.slots id free).trans (one.slots id free)
  units id free := (one.units id free).trans (two.units id free)
  idle none_ id := (one.idle none_ id).trans (two.idle none_ id)
  absent taking id slot read marked := by
    rcases two.absent taking id slot read marked with ⟨between, later⟩
    rcases one.absent taking id slot between marked with ⟨before, earlier⟩
    exact ⟨before, earlier.trans later⟩
  completions id free := (two.completions id free).trans (one.completions id free)

def contract (takes : Nat -> Prop) : Contract Db Lock where
  Good := Held
  Guarantee := Keeps takes

/-! ## What is written -/

/-- A write under the rules, in the state the earlier ones have made. -/
def Allows (takes : Nat -> Prop) (session : Nat) (held : List Lock) (db : Db) : Write -> Prop
  | .slot (.insert row) => WriteLocked held (.slot row.id) ∧ row.id.minter.isSome ∧
      db.slot? row.id = none ∧ row.status ≠ .noShowTeacher
  | .slot (.replace row) => WriteLocked held (.slot row.id) ∧
      (∃ old, db.slot? row.id = some old) ∧ (takes session -> row.status ≠ .noShowTeacher)
  | .slot (.delete _) => False
  | .consumption (.insert row) => WriteLocked held (.slot row.slotId) ∧ takes session ∧
      ∃ slot, db.slot? row.slotId = some slot ∧ slot.status = .booked
  | .consumption (.replace row) => row.active = false
  | .consumption (.delete _) => False
  | .completion change => WriteLocked held (.completion change.row.id)
  | _ => True

/-- The rows the contract looks at read the same. -/
structure Reads (before after : Db) : Prop where
  slot? : ∀ id, after.slot? id = before.slot? id
  consumption? : ∀ id, after.consumption? id = before.consumption? id
  completion? : ∀ id, after.completion? id = before.completion? id

theorem Reads.of_same {before after : Db} (slots : after.slots = before.slots)
    (consumptions : after.consumptions = before.consumptions)
    (completions : after.completions = before.completions) : Reads before after where
  slot? _ := by rw [Db.slot?, Db.slot?, slots]
  consumption? _ := by rw [Db.consumption?, Db.consumption?, consumptions]
  completion? _ := by rw [Db.completion?, Db.completion?, completions]

/-- The write touches neither slots nor units nor completions. -/
def Aside (write : Write) : Prop :=
  write.table ≠ .slots ∧ write.table ≠ .consumptions ∧ write.table ≠ .completions

theorem Aside.reads {write : Write} (aside : Aside write) (db : Db) :
    Reads db (db.apply write) := by
  cases write with
  | slot change => exact absurd rfl aside.1
  | consumption change => exact absurd rfl aside.2.1
  | completion change => exact absurd rfl aside.2.2
  | allocation row =>
    simp only [Db.apply, Db.allocate]
    split <;> exact .of_same rfl rfl rfl
  | _ => exact .of_same rfl rfl rfl

theorem Aside.allowed {write : Write} (aside : Aside write) :
    Allows takes session held db write := by
  cases write with
  | slot change => exact absurd rfl aside.1
  | consumption change => exact absurd rfl aside.2.1
  | completion change => exact absurd rfl aside.2.2
  | _ => trivial

theorem Reads.keeps {before after : Db} (reads : Reads before after) :
    Keeps takes session held before after where
  slots id _ := reads.slot? id
  units id _ := Or.inl (reads.consumption? id)
  idle _ id := Or.inl (reads.consumption? id)
  absent _ id _ read _ := ⟨reads.slot? id ▸ read, Or.inl (reads.consumption? id)⟩
  completions id _ := reads.completion? id

theorem consumption?_replaced (db : Db) (row : PackageConsumption) (slotId : RowId) :
    (db.apply (.consumption (.replace row))).consumption? slotId =
      (db.consumption? slotId).map fun old => if row.slotId = slotId then row else old :=
  get_replaced row

theorem consumption?_inserted (db : Db) (row : PackageConsumption) (slotId : RowId) :
    (db.apply (.consumption (.insert row))).consumption? slotId =
      (db.consumption? slotId).or (if row.slotId = slotId then some row else none) :=
  get_insert row

theorem lapses_replaced {row : PackageConsumption} (returned : row.active = false) (db : Db)
    (slotId : RowId) : Lapses (db.consumption? slotId)
      ((db.apply (.consumption (.replace row))).consumption? slotId) := by
  rw [consumption?_replaced]
  cases found : db.consumption? slotId with
  | none => exact .refl _
  | some old =>
    rw [Option.map_some]
    by_cases same : row.slotId = slotId
    · rw [if_pos same]
      exact Or.inr ⟨row, rfl, returned⟩
    · rw [if_neg same]
      exact .refl _

theorem Allows.keeps {write : Write} (allowed : Allows takes session held db write) :
    Keeps takes session held db (db.apply write) := by
  by_cases aside : Aside write
  · exact (aside.reads db).keeps
  cases write with
  | slot change =>
    cases change with
    | insert row =>
      rcases allowed with ⟨locked, -, fresh, unmarked⟩
      refine ⟨?_, fun _ _ => .refl _, fun _ _ => .refl _, ?_, fun _ _ => rfl⟩
      · intro id free
        rw [slot?_insert fresh, if_neg fun same => free (by rw [← same]; exact locked)]
      · intro _ id slot read marked
        rw [slot?_insert fresh] at read
        by_cases same : row.id = id
        · rw [if_pos same] at read
          exact absurd (Option.some.inj read ▸ marked) unmarked
        · rw [if_neg same] at read
          exact ⟨read, .refl _⟩
    | replace row =>
      rcases allowed with ⟨locked, ⟨old, found⟩, unmarked⟩
      refine ⟨?_, fun _ _ => .refl _, fun _ _ => .refl _, ?_, fun _ _ => rfl⟩
      · intro id free
        rw [slot?_replace found, if_neg fun same => free (by rw [← same]; exact locked)]
      · intro taking id slot read marked
        rw [slot?_replace found] at read
        by_cases same : row.id = id
        · rw [if_pos same] at read
          exact absurd (Option.some.inj read ▸ marked) (unmarked taking)
        · rw [if_neg same] at read
          exact ⟨read, .refl _⟩
    | delete row => exact allowed.elim
  | consumption change =>
    cases change with
    | insert row =>
      rcases allowed with ⟨locked, taking, slot, found, booked⟩
      have away : ∀ id, row.slotId ≠ id -> Lapses (db.consumption? id)
          ((db.apply (.consumption (.insert row))).consumption? id) := by
        intro id different
        rw [consumption?_inserted, if_neg different, Option.or_none]
        exact .refl _
      refine ⟨fun _ _ => rfl, ?_, fun none_ => absurd taking none_, ?_, fun _ _ => rfl⟩
      · exact fun id free => away id fun same => free (by rw [← same]; exact locked)
      · intro _ id other read marked
        refine ⟨read, away id ?_⟩
        rintro rfl
        have same : other = slot := Option.some.inj (Eq.trans read.symm found)
        rw [same, booked] at marked
        cases marked
    | replace row =>
      have lapses := lapses_replaced allowed db
      exact ⟨fun _ _ => rfl, fun id _ => lapses id, fun _ id => lapses id,
        fun _ id slot read _ => ⟨read, lapses id⟩, fun _ _ => rfl⟩
    | delete row => exact allowed.elim
  | completion change =>
    refine ⟨fun _ _ => rfl, fun _ _ => .refl _, fun _ _ => .refl _,
      fun _ _ _ read _ => ⟨read, .refl _⟩, ?_⟩
    intro id free
    refine get_apply_of_ne change fun same => free ?_
    rw [same]
    exact allowed
  | _ => exact absurd (by simp [Aside, Write.table]) aside

theorem Allows.widen {write : Write} {more : List Lock} (wider : ∀ lock, lock ∈ held -> lock ∈ more)
    (allowed : Allows takes session held db write) : Allows takes session more db write := by
  cases write with
  | slot change =>
    cases change with
    | insert row => exact ⟨allowed.1.mono wider, allowed.2⟩
    | replace row => exact ⟨allowed.1.mono wider, allowed.2⟩
    | delete row => exact allowed
  | consumption change =>
    cases change with
    | insert row => exact ⟨allowed.1.mono wider, allowed.2⟩
    | replace row => exact allowed
    | delete row => exact allowed
  | completion change => exact WriteLocked.mono allowed wider
  | _ => trivial

theorem keeps_applyAll {writes : List Write}
    (fits : Fits store (Allows takes session held) db writes) :
    Keeps takes session held db (store.applyAll db writes) := by
  induction writes generalizing db with
  | nil => exact .refl db
  | cons write writes extend => exact fits.1.keeps.trans (extend fits.2)

/-! ## What the locks keep in view -/

/-- The states look alike through the locks. -/
structure Agrees (held : List Lock) (first second : Db) : Prop where
  slots : ∀ id row, WriteLocked held (.slot id) -> first.slot? id = some row ->
    second.slot? id = some row
  minted : ∀ id, WriteLocked held (.slot id) -> id.minter.isSome ->
    first.slot? id = none -> second.slot? id = none
  units : ∀ id, WriteLocked held (.slot id) ->
    Lapses (first.consumption? id) (second.consumption? id)
  completions : ∀ id, WriteLocked held (.completion id) ->
    second.completion? id = first.completion? id

theorem Agrees.narrow {more : List Lock} (wider : ∀ lock, lock ∈ held -> lock ∈ more)
    {first second : Db} (agree : Agrees more first second) : Agrees held first second where
  slots id row locked := agree.slots id row (locked.mono wider)
  minted id locked := agree.minted id (locked.mono wider)
  units id locked := agree.units id (locked.mono wider)
  completions id locked := agree.completions id (locked.mono wider)

theorem Reads.agrees {first second : Db} (reads : Reads first second) :
    Agrees held first second where
  slots id _ _ read := (reads.slot? id).trans read
  minted id _ _ read := (reads.slot? id).trans read
  units id _ := Or.inl (reads.consumption? id)
  completions id _ := reads.completion? id

theorem agrees_drift (db : Db) (change : Drift) : Agrees held db (db.drift change) := by
  cases change with
  | slot row =>
    simp only [Db.drift]
    split
    · rename_i opened
      simp only [Bool.and_eq_true, Option.isNone_iff_eq_none] at opened
      have read : ∀ id, (db.apply (.slot (.insert row))).slot? id =
          if row.id = id then some row else db.slot? id := slot?_insert opened.1.1
      refine ⟨fun id old _ found => get_insert_of_some row found, ?_, fun _ _ => .refl _,
        fun _ _ => rfl⟩
      intro id _ minted absent
      refine (read id).trans ?_
      rw [if_neg, absent]
      intro clash
      rw [← clash, opened.1.2] at minted
      cases minted
    · exact Reads.agrees (.of_same rfl rfl rfl)
  | allocation row =>
    simp only [Db.drift, Db.allocate]
    split <;> exact Reads.agrees (.of_same rfl rfl rfl)
  | _ => exact Reads.agrees (.of_same rfl rfl rfl)

theorem agrees_of_disturbs {before after : Db}
    (disturbed : (contract takes).Disturbs store session held before after) :
    Agrees held before after := by
  rcases disturbed with ⟨-, -, ⟨change, rfl⟩ | ⟨other, theirs, -, apart, kept⟩⟩
  · exact agrees_drift before change
  · have kept : Keeps takes other theirs before after := kept
    exact ⟨fun id _ locked read => (kept.slots id (locked.excludes apart)).trans read,
      fun id locked _ read => (kept.slots id (locked.excludes apart)).trans read,
      fun id locked => kept.units id (locked.excludes apart),
      fun id locked => kept.completions id (locked.excludes apart)⟩

theorem Allows.transfer {first second : Db} {write : Write} (agree : Agrees held first second)
    (allowed : Allows takes session held first write) : Allows takes session held second write ∧
      Agrees held (first.apply write) (second.apply write) := by
  by_cases aside : Aside write
  · have one := aside.reads first
    have two := aside.reads second
    refine ⟨aside.allowed, ⟨?_, ?_, ?_, ?_⟩⟩
    · intro id row
      rw [one.slot? id, two.slot? id]
      exact agree.slots id row
    · intro id
      rw [one.slot? id, two.slot? id]
      exact agree.minted id
    · intro id
      rw [one.consumption? id, two.consumption? id]
      exact agree.units id
    · intro id
      rw [one.completion? id, two.completion? id]
      exact agree.completions id
  cases write with
  | slot change =>
    cases change with
    | insert row =>
      rcases allowed with ⟨locked, minted, fresh, unmarked⟩
      have absent := agree.minted row.id locked minted fresh
      refine ⟨⟨locked, minted, absent, unmarked⟩, ⟨?_, ?_, agree.units, agree.completions⟩⟩
      · intro id old
        rw [slot?_insert fresh, slot?_insert absent]
        split
        · exact fun _ same => same
        · exact agree.slots id old
      · intro id
        rw [slot?_insert fresh, slot?_insert absent]
        split
        · exact fun _ _ same => same
        · exact agree.minted id
    | replace row =>
      rcases allowed with ⟨locked, ⟨old, found⟩, unmarked⟩
      have there := agree.slots row.id old locked found
      refine ⟨⟨locked, ⟨old, there⟩, unmarked⟩, ⟨?_, ?_, agree.units, agree.completions⟩⟩
      · intro id other
        rw [slot?_replace found, slot?_replace there]
        split
        · exact fun _ same => same
        · exact agree.slots id other
      · intro id
        rw [slot?_replace found, slot?_replace there]
        split
        · exact fun _ _ same => same
        · exact agree.minted id
    | delete row => exact allowed.elim
  | consumption change =>
    cases change with
    | insert row =>
      rcases allowed with ⟨locked, taking, slot, found, booked⟩
      refine ⟨⟨locked, taking, slot, agree.slots _ _ locked found, booked⟩,
        ⟨agree.slots, agree.minted, ?_, agree.completions⟩⟩
      intro id locked
      rw [consumption?_inserted, consumption?_inserted]
      rcases agree.units id locked with same | ⟨other, read, returned⟩
      · exact Or.inl (by rw [same])
      · exact Or.inr ⟨other, by rw [read]; rfl, returned⟩
    | replace row =>
      refine ⟨allowed, ⟨agree.slots, agree.minted, ?_, agree.completions⟩⟩
      intro id locked
      rw [consumption?_replaced, consumption?_replaced]
      rcases agree.units id locked with same | ⟨other, read, returned⟩
      · exact Or.inl (by rw [same])
      · refine Or.inr ⟨_, by rw [read, Option.map_some], ?_⟩
        split
        · exact allowed
        · exact returned
    | delete row => exact allowed.elim
  | completion change =>
    refine ⟨allowed, ⟨agree.slots, agree.minted, agree.units, ?_⟩⟩
    intro id locked
    have same := agree.completions id locked
    cases change with
    | insert row =>
      refine (get_insert row).trans (Eq.trans ?_ (get_insert row).symm)
      exact congrArg (fun read => Option.or read (if row.id = id then some row else none)) same
    | replace row =>
      refine (get_replaced row).trans (Eq.trans ?_ (get_replaced row).symm)
      exact congrArg (Option.map _) same
    | delete row =>
      refine (completion?_delete _).trans (Eq.trans ?_ (completion?_delete _).symm)
      rw [same]
  | _ => exact absurd (by simp [Aside, Write.table]) aside

theorem agrees_applyAll {first second : Db} {writes : List Write} (agree : Agrees held first second)
    (fits : Fits store (Allows takes session held) first writes) :
    Fits store (Allows takes session held) second writes ∧
      Agrees held (store.applyAll first writes) (store.applyAll second writes) := by
  induction writes generalizing first second with
  | nil => exact ⟨trivial, agree⟩
  | cons write writes extend =>
    rcases fits.1.transfer agree with ⟨allowed, still⟩
    have rest := extend still fits.2
    exact ⟨⟨allowed, rest.1⟩, rest.2⟩

theorem heldExcept_transfer {first second : Db} {writes : List Write} {working : RowId -> Prop}
    (units : Held second) (agree : Agrees held first second)
    (fits : Fits store (Allows takes session held) first writes)
    (own : HeldExcept working (store.applyAll first writes)) :
    HeldExcept working (store.applyAll second writes) := by
  rcases agrees_applyAll agree fits with ⟨fitsSecond, agreeOwn⟩
  intro slotId idle holding
  by_cases locked : WriteLocked held (.slot slotId)
  · rcases own slotId idle (holding.of_lapses (agreeOwn.units slotId locked)) with
      ⟨slot, read, priced⟩
    exact ⟨slot, agreeOwn.slots slotId slot locked read, priced⟩
  · have kept := keeps_applyAll fitsSecond
    rcases units slotId id (holding.of_lapses (kept.units slotId locked)) with
      ⟨slot, read, priced⟩
    exact ⟨slot, (kept.slots slotId locked).trans read, priced⟩

def discipline (takes : Nat -> Prop) : Discipline (contract takes) store where
  Inv := fun _ => True
  Allows := Allows takes
  Agrees := fun _ => Agrees
  inv_of_good _ := trivial
  keeps _ _ := trivial
  widen wider allowed := allowed.widen wider
  narrow wider agree := agree.narrow wider
  transfer _ _ agree allowed := allowed.transfer agree
  disturbed := agrees_of_disturbs
  settles _ two agree fits units := heldExcept_transfer two agree fits units
  guarantee _ fits _ := keeps_applyAll fits

theorem held_drift (units : Held db) (change : Drift) : Held (db.drift change) := by
  have untouched : ∀ {after : Db}, (∀ id row, db.slot? id = some row ->
      after.slot? id = some row) -> after.consumptions = db.consumptions -> Held after := by
    intro after slots consumptions slotId _ holding
    have same : after.consumption? slotId = db.consumption? slotId := by
      rw [Db.consumption?, Db.consumption?, consumptions]
    rcases units slotId id (holding.of_lapses (Or.inl same)) with ⟨slot, read, priced⟩
    exact ⟨slot, slots slotId slot read, priced⟩
  cases change with
  | slot row =>
    simp only [Db.drift]
    split
    · exact untouched (fun _ _ read => get_insert_of_some row read) rfl
    · exact units
  | allocation row =>
    simp only [Db.drift, Db.allocate]
    split <;> exact untouched (fun _ _ read => read) rfl
  | _ => exact untouched (fun _ _ read => read) rfl

theorem steady (takes : Nat -> Prop) : (contract takes).Steady store where
  drift change _ units := held_drift units change
  close session _ db units :=
    have reads : Reads db (store.close session db) := .of_same rfl rfl rfl
    ⟨units, reads.keeps⟩

theorem local_slot {id : RowId} (locked : WriteLocked held (.slot id)) (row : LessonSlot) :
    (discipline takes).Local session held (fun own => own.slot? id = some row) :=
  fun _ _ _ _ agree read => agree.slots id row locked read

theorem local_completion {id : RowId} (locked : WriteLocked held (.completion id))
    (row : Option LessonCompletion) :
    (discipline takes).Local session held (fun own => own.completion? id = row) :=
  fun _ _ _ _ agree read => (agree.completions id locked).trans read

end HeldUnits
end LevelChannel.Scheduling
