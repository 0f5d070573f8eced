import LevelChannel.Pricing.TariffFreeze

namespace LevelChannel.TariffFreeze

open ReadCommitted Tables Scheduling

/-!
# Slots keep to their tariffs

What a writer of slots has seen of a tariff lasts until its commit as long as nobody commits
another duration of the tariff meanwhile; and what the triggers of a tariff have seen of the
slots, as long as nobody commits the first slot of the tariff.  Where the edits of open slots
leave the duration or set that of the tariff, every slot then suits its tariff and no tariff
with a slot changes.  Teachers and references stay by themselves.
-/

section Consistent

variable (db : Db) (row : LessonSlot)

/-- The row's tariff, if it has one, is there, with the row's duration and its teacher. -/
def Suits : Prop :=
  (row.tariffId.all fun id => (db.catalog.tariff id).any fun tariff =>
    tariff.durationMinutes = row.durationMinutes &&
      tariff.teacherId = some row.teacherAccountId) = true

def Consistent : Prop :=
  ∀ row, row ∈ db.slots -> Suits db row

def terms (id : RowId) : Option (Nat × Nat) :=
  (db.catalog.tariff id).map fun tariff => (tariff.amountKopecks, tariff.durationMinutes)

/-- A tariff that a slot refers to has kept its amount and its duration. -/
def Frozen (before after : Db) : Prop :=
  ∀ row, row ∈ before.slots -> ∀ id, row.tariffId = some id ->
    terms after id = terms before id

instance : Decidable (Suits db row) :=
  inferInstanceAs (Decidable (_ = true))

instance : Decidable (Consistent db) :=
  inferInstanceAs (Decidable (∀ row, row ∈ db.slots -> _))

instance (before after : Db) : Decidable (Frozen before after) :=
  inferInstanceAs (Decidable (∀ row, row ∈ before.slots -> ∀ id, id ∈ row.tariffId ->
    terms after id = terms before id))

def Agreeing : Prop :=
  ∀ row, row ∈ db.slots -> ∀ other, other ∈ db.slots -> row.id = other.id ->
    row.tariffId = other.tariffId ∧ row.teacherAccountId = other.teacherAccountId

end Consistent

/-- What slots referred to has kept its terms and is still referred to. -/
structure Onward (before after : Db) : Prop where
  terms : ∀ id, referenced before id = true -> terms after id = terms before id
  references : ∀ id, referenced before id = true -> referenced after id = true

def Action.onSlots : Action -> Bool
  | .slot _ | .editOpenSlot _ _ => true
  | _ => false

def Action.names (id : RowId) : Action -> Prop
  | .slot (.createSlot input) => input.tariffId = some id
  | .slot (.bulkCreateSlots input) => input.tariffId = some id
  | .slot (.assignSlotDirect input) => input.tariffId = id
  | _ => False

/-- The tariff and the teacher of the slots a request opens: those it names, or those of the
slot it reschedules. -/
def Action.gives (db : Db) (tariffId : Option RowId) (teacherAccountId : RowId) : Action -> Prop
  | .slot (.createSlot input) =>
    tariffId = input.tariffId ∧ teacherAccountId = input.teacherAccountId
  | .slot (.bulkCreateSlots input) =>
    tariffId = input.tariffId ∧ teacherAccountId = input.teacherAccountId
  | .slot (.assignSlotDirect input) =>
    tariffId = some input.tariffId ∧ teacherAccountId = input.teacherAccountId
  | .slot (.rescheduleSlotByLearner slotId _ _ _) | .slot (.rescheduleSlotByTeacher slotId _ _ _) =>
    ∃ old, old ∈ db.slots ∧ old.id = slotId ∧ tariffId = old.tariffId ∧
      teacherAccountId = old.teacherAccountId
  | _ => False

def Action.sets (slotId : RowId) (minutes : Int) : Action -> Prop
  | .editOpenSlot own patch => own = slotId ∧ patch.durationMinutes = some (.integer minutes)
  | _ => False

section Queued

variable (db : Db) (session : Nat) (action : Action) (row : LessonSlot)

/-- The slot is there with the row's tariff and teacher, or it is a new one of the session. -/
def Fits : Prop :=
  (∃ old, old ∈ db.slots ∧ old.id = row.id ∧ row.tariffId = old.tariffId ∧
    row.teacherAccountId = old.teacherAccountId) ∨
  (∀ old, old ∈ db.slots -> old.id ≠ row.id) ∧ row.id.minter = some session ∧
    action.gives db row.tariffId row.teacherAccountId

def Owned : Prop :=
  ∀ id, row.tariffId = some id -> ∃ tariff, db.catalog.tariff id = some tariff ∧
    tariff.teacherId = some row.teacherAccountId

def Timed : Prop :=
  Suits db row ∨ ∃ minutes, action.sets row.id minutes ∧
    row.durationMinutes = minutes.toNat ∧ Owned db row

/-- The tariff keeps its teacher, and its terms if a slot refers to it; a new one is the
session's own. -/
structure Tariffed (id : RowId) (tariff : PricingTariff) : Prop where
  there : ∀ old, db.catalog.tariff id = some old -> tariff.teacherId = old.teacherId ∧
    (referenced db id = true -> tariff.amountKopecks = old.amountKopecks ∧
      tariff.durationMinutes = old.durationMinutes)
  minted : db.catalog.tariff id = none -> id.minter = some session

def May : Write -> Prop
  | .lesson write => action.onSlots = true ∧ (∀ row, write ≠ .slot (.delete row)) ∧
      ∀ row, write = .slot (.insert row) ∨ write = .slot (.replace row) ->
        Fits db session action row ∧ Timed db action row
  | .tariff id tariff => action.onSlots = false ∧ Tariffed db session id tariff

end Queued

/-- What a writer of slots has learned for the slots it opens: their tariff and teacher, and
the tariff's duration once it has looked at that. -/
structure Learned where
  tariffId : Option RowId
  teacherAccountId : RowId
  durationMinutes : Option Nat

/-- What has been learned is so. -/
structure Learned.Holds (learned : Learned) (action : Action) (db : Db) : Prop where
  gives : action.gives db learned.tariffId learned.teacherAccountId
  tariff : ∀ id, learned.tariffId = some id -> ∃ tariff,
    db.catalog.tariff id = some tariff ∧ tariff.teacherId = some learned.teacherAccountId ∧
      ∀ minutes, learned.durationMinutes = some minutes -> tariff.durationMinutes = minutes

/-- Slots suit their tariffs, and what is queued goes on suiting them. -/
def keeping (actions : Nat -> Action) : Upkeep Db Write (Option Learned) where
  good db := Consistent db ∧ Agreeing db
  moves := Onward
  knows session known db := ∀ learned, known = some learned ->
    learned.Holds (actions session) db
  may session db write := May db session (actions session) write
  nothing := none
  stays _ := ⟨fun _ _ => rfl, fun _ is => is⟩
  knows_nothing _ _ _ none := by cases none

def lessons (actions : Nat -> Action) : Upkeep Db LevelChannel.Write (Option Learned) where
  good := (keeping actions).good
  moves := (keeping actions).moves
  knows := (keeping actions).knows
  may session db write := (keeping actions).may session db (.lesson write)
  nothing := none
  stays := (keeping actions).stays
  knows_nothing := (keeping actions).knows_nothing

/-! ## Views of slots -/

section Views

variable {actions : Nat -> Action} {session : Nat} {known : Option Learned} {db own : Db}
  {row : LessonSlot}

theorem referenced_iff {id : RowId} :
    referenced db id = true <-> ∃ row, row ∈ db.slots ∧ row.tariffId = some id := by
  simp [referenced]

theorem suits_iff : Suits db row <-> ∀ id, row.tariffId = some id -> ∃ tariff,
    db.catalog.tariff id = some tariff ∧ tariff.durationMinutes = row.durationMinutes ∧
      tariff.teacherId = some row.teacherAccountId := by
  rw [Suits, Option.all_eq_true]
  refine forall₂_congr fun id named => ?_
  simp only [Option.any_eq_true, Bool.and_eq_true, decide_eq_true_eq]

/-- A new version of a row suits where the old one does. -/
theorem Suits.revised {old : LessonSlot} (suits : Suits db old) (revision : Revision old row) :
    Suits db row := by
  rw [Suits] at suits ⊢
  rwa [revision.tariffId, revision.durationMinutes, revision.teacherAccountId]

theorem Fits.revised {action : Action} {old : LessonSlot} (fits : Fits db session action old)
    (revision : Revision old row) : Fits db session action row := by
  rw [Fits] at fits ⊢
  rwa [revision.id, revision.tariffId, revision.teacherAccountId]

theorem fits_of_mem {action : Action} (listed : row ∈ db.slots) : Fits db session action row :=
  Or.inl ⟨row, listed, rfl, rfl, rfl⟩

theorem gives_agree {action : Action} (agreeing : Agreeing db) {tariffId other : Option RowId}
    {teacherAccountId otherTeacher : RowId} (gives : action.gives db tariffId teacherAccountId)
    (also : action.gives db other otherTeacher) :
    tariffId = other ∧ teacherAccountId = otherTeacher := by
  unfold Action.gives at gives also
  split at gives
  · exact ⟨gives.1.trans also.1.symm, gives.2.trans also.2.symm⟩
  · exact ⟨gives.1.trans also.1.symm, gives.2.trans also.2.symm⟩
  · exact ⟨gives.1.trans also.1.symm, gives.2.trans also.2.symm⟩
  all_goals
    first
    | exact gives.elim
    | rcases gives with ⟨old, listed, key, rfl, rfl⟩
      rcases also with ⟨slot, member, same, rfl, rfl⟩
      exact agreeing old listed slot member (key.trans same.symm)

/-- Two rows of one slot that fit have one tariff and one teacher. -/
theorem Fits.agree {action : Action} (agreeing : Agreeing db) {other : LessonSlot}
    (fits : Fits db session action row) (also : Fits db session action other)
    (same : row.id = other.id) :
    row.tariffId = other.tariffId ∧ row.teacherAccountId = other.teacherAccountId := by
  rcases fits with ⟨old, listed, key, tariff, teacher⟩ | ⟨fresh, -, gives⟩
  · rcases also with ⟨slot, member, named, tariffs, teachers⟩ | ⟨fresh, -, -⟩
    · have both := agreeing old listed slot member ((key.trans same).trans named.symm)
      exact ⟨tariff.trans (both.1.trans tariffs.symm), teacher.trans (both.2.trans teachers.symm)⟩
    · exact absurd (key.trans same) (fresh old listed)
  · rcases also with ⟨slot, member, named, -, -⟩ | ⟨-, -, gave⟩
    · exact absurd (named.trans same.symm) (fresh slot member)
    · exact gives_agree agreeing gives gave

theorem tariff_applyAll (db : Db) (writes : List LevelChannel.Write) :
    (LevelChannel.store.applyAll db writes).catalog.tariff = db.catalog.tariff := by
  induction writes generalizing db with
  | nil => rfl
  | cons write writes extend =>
    rw [Store.applyAll_cons, extend, store_apply]
    cases write with
    | allocation row =>
      rw [Db.apply, Db.allocate]
      split <;> rfl
    | _ => rfl

/-- A slot stays with its tariff and its teacher through such writes. -/
theorem slot_lasts {old : LessonSlot} {writes : List LevelChannel.Write}
    (deletes : ∀ row, LevelChannel.Write.slot (.delete row) ∉ writes)
    (replaces : ∀ row, LevelChannel.Write.slot (.replace row) ∈ writes -> row.id = old.id ->
      row.tariffId = old.tariffId ∧ row.teacherAccountId = old.teacherAccountId)
    (there : ∃ now, now ∈ db.slots ∧ now.id = old.id ∧ now.tariffId = old.tariffId ∧
      now.teacherAccountId = old.teacherAccountId) :
    ∃ now, now ∈ (LevelChannel.store.applyAll db writes).slots ∧ now.id = old.id ∧
      now.tariffId = old.tariffId ∧ now.teacherAccountId = old.teacherAccountId := by
  induction writes generalizing db with
  | nil => exact there
  | cons write writes extend =>
    rw [Store.applyAll_cons]
    refine extend (fun row listed => deletes row (List.mem_cons_of_mem _ listed))
      (fun row listed => replaces row (List.mem_cons_of_mem _ listed)) ?_
    rcases there with ⟨now, listed, key, tariff, teacher⟩
    by_cases slots : write.table = .slots
    · cases write with
      | slot change =>
        cases change with
        | insert row =>
          exact ⟨now, (mem_insert LessonSlot.id).mpr (Or.inl listed), key, tariff, teacher⟩
        | replace row =>
          by_cases same : now.id = row.id
          · have agrees := replaces row List.mem_cons_self (same.symm.trans key)
            exact ⟨row, List.mem_map.mpr ⟨now, listed, if_pos same⟩, same.symm.trans key, agrees⟩
          · exact ⟨now, List.mem_map.mpr ⟨now, listed, if_neg same⟩, key, tariff, teacher⟩
        | delete row => exact absurd List.mem_cons_self (deletes row)
      | _ => cases slots
    · have same := @slots_applyAll [write]
        (fun other listed => List.mem_singleton.mp listed ▸ slots) db
      exact ⟨now, same ▸ listed, key, tariff, teacher⟩

/-- Writes of a slot request, on a good state. -/
theorem slots_of_writes {action : Action} {writes : List LevelChannel.Write}
    (good : Consistent db ∧ Agreeing db)
    (allowed : ∀ write, write ∈ writes -> May db session action (.lesson write)) :
    (∀ row, row ∈ (LevelChannel.store.applyAll db writes).slots ->
      Fits db session action row ∧ Timed db action row) ∧ ∀ old, old ∈ db.slots -> ∃ now,
      now ∈ (LevelChannel.store.applyAll db writes).slots ∧ now.id = old.id ∧
        now.tariffId = old.tariffId ∧ now.teacherAccountId = old.teacherAccountId := by
  refine ⟨fun row listed => ?_, fun old listed => ?_⟩
  · rcases mem_slots_applyAll listed with before | ⟨write, member, wrote⟩
    · exact ⟨fits_of_mem before, Or.inl (good.1 row before)⟩
    · exact (allowed write member).2.2 row wrote
  · refine slot_lasts (fun row deleted => (allowed _ deleted).2.1 row rfl)
      (fun row replaced same => ?_) ⟨old, listed, rfl, rfl, rfl⟩
    exact Fits.agree good.2 ((allowed _ replaced).2.2 row (Or.inr rfl)).1 (fits_of_mem listed) same

/-- What a slot request sees of the slots. -/
theorem slots_of_view (view : (lessons actions).View LevelChannel.store session known db own) :
    own.catalog.tariff = db.catalog.tariff ∧
    (∀ row, row ∈ own.slots -> Fits db session (actions session) row ∧
      Timed db (actions session) row) ∧
    ∀ id, own.slot? id = none -> ∀ old, old ∈ db.slots -> old.id ≠ id := by
  rcases view.queued with ⟨pending, allowed, rfl⟩
  have slots := slots_of_writes view.good allowed
  refine ⟨tariff_applyAll db pending, slots.1, fun id free old listed key => ?_⟩
  rcases slots.2 old listed with ⟨now, member, named, -, -⟩
  have found := get_isSome_of_mem LessonSlot.id member
  rw [named, key, show get LessonSlot.id _ id = none from free] at found
  cases found

end Views

section Slots

variable {actions : Nat -> Action} {session : Nat} {known : Option Learned} {db own : Db}
  {row : LessonSlot} {action : SlotAction}

theorem Timed.suits (slot : actions session = .slot action)
    (timed : Timed db (actions session) row) : Suits db row := by
  rcases timed with suits | ⟨_, sets, -⟩
  · exact suits
  · rw [slot] at sets
    exact sets.elim

theorem may_slot {write : LevelChannel.Write} (slots : (actions session).onSlots = true)
    (writes : write = .slot (.insert row) ∨ write = .slot (.replace row))
    (fits : Fits db session (actions session) row) (timed : Timed db (actions session) row) :
    (lessons actions).may session db write := by
  refine ⟨slots, ?_, ?_⟩
  · rintro other rfl
    rcases writes with insert | replace
    · cases insert
    · cases replace
  · rintro other (rfl | rfl)
    · rcases writes with insert | replace
      · cases insert
        exact ⟨fits, timed⟩
      · cases replace
    · rcases writes with insert | replace
      · cases insert
      · cases replace
        exact ⟨fits, timed⟩

theorem revision_snapshot (row : LessonSlot) (catalog : Catalog) :
    Revision row (row.snapshotOnBook catalog) :=
  Revision.snapshot ⟨rfl, rfl, rfl, rfl, rfl, (Decidable.em _)⟩ catalog

theorem lenient_lessons (slot : actions session = .slot action) :
    Lenient (lessons actions) session where
  quiet table := by
    refine ⟨slot ▸ rfl, ?_, ?_⟩
    · rintro row rfl
      exact table rfl
    · rintro row (rfl | rfl) <;> exact absurd rfl table
  revised view listed revision := by
    rcases (slots_of_view view).2.1 _ listed with ⟨fits, timed⟩
    exact may_slot (slot ▸ rfl) (Or.inr rfl) (fits.revised revision)
      (Or.inl ((timed.suits slot).revised revision))

/-- A slot of its own may be opened by a session for which this is learned. -/
theorem may_open (slots : (actions session).onSlots = true)
    (view : (lessons actions).View LevelChannel.store session known db own)
    (fresh : own.slot? row.id = none) (minted : row.id.minter = some session)
    (gives : (actions session).gives db row.tariffId row.teacherAccountId) (suits : Suits db row) :
    (lessons actions).may session db (.slot (.insert (row.snapshotOnBook own.catalog))) := by
  have fits : Fits db session (actions session) row :=
    Or.inr ⟨(slots_of_view view).2.2 _ fresh, minted, gives⟩
  exact may_slot slots (Or.inl rfl) (fits.revised (revision_snapshot row _))
    (Or.inl (suits.revised (revision_snapshot row _)))

theorem knows_some {learned : Learned} (holds : learned.Holds (actions session) db) :
    (lessons actions).knows session (some learned) db :=
  fun _ same => Option.some.inj same ▸ holds

theorem suits_of_holds {request : Action}
    (holds : Learned.Holds ⟨row.tariffId, row.teacherAccountId, some row.durationMinutes⟩
      request db) : Suits db row := by
  refine suits_iff.mpr fun id named => ?_
  rcases holds.tariff id named with ⟨tariff, found, teacher, duration⟩
  exact ⟨tariff, found, duration _ rfl, teacher⟩

/-- A request that gives its own tariff and teacher learns the tariff's duration, if it has
one, and then opens its slots. -/
theorem told_lessons {tariffId : Option RowId} {teacherAccountId : RowId} {durationMinutes : Nat}
    {goal : Option Learned -> Prop}
    (gives : ∀ db, (actions session).gives db tariffId teacherAccountId)
    (onward : ∀ known, (∀ db, (lessons actions).knows session known db ->
      Learned.Holds ⟨tariffId, teacherAccountId, some durationMinutes⟩ (actions session) db) ->
        goal known) :
    Told (lessons actions) session tariffId teacherAccountId durationMinutes goal := by
  constructor
  · rintro rfl
    refine onward none fun db _ => ⟨gives db, fun id named => ?_⟩
    cases named
  · rintro id rfl db own tariff view found teacher
    refine ⟨some ⟨some id, teacherAccountId, none⟩, knows_some ⟨gives db, ?_⟩, ?_⟩
    · intro other named
      obtain rfl := Option.some.inj named
      refine ⟨tariff, found, teacher, fun minutes known => ?_⟩
      cases known
    · intro db own tariff view found duration
      refine ⟨some ⟨some id, teacherAccountId, some durationMinutes⟩,
        knows_some ⟨gives db, ?_⟩, onward _ fun db knows => knows _ rfl⟩
      intro other named
      obtain rfl := Option.some.inj named
      rcases (view.knows _ rfl).tariff id rfl with ⟨old, read, teacher, -⟩
      obtain rfl := Option.some.inj (read.symm.trans found)
      exact ⟨old, found, teacher, fun minutes same => Option.some.inj same ▸ duration⟩

/-- A reschedule learns the tariff, the teacher and the duration of the slot it cancels. -/
theorem movable_lessons {slotId : RowId} {newStartAt : Nat} (slot : actions session = .slot action)
    (moves : ∀ db tariffId teacherAccountId,
      (actions session).gives db tariffId teacherAccountId <-> ∃ old, old ∈ db.slots ∧
        old.id = slotId ∧ tariffId = old.tariffId ∧ teacherAccountId = old.teacherAccountId) :
    Movable (lessons actions) session slotId newStartAt := by
  intro known db own old view member key _
  rcases (slots_of_view view).2.1 old member with ⟨fits, timed⟩
  have gives : (actions session).gives db old.tariffId old.teacherAccountId := by
    rcases fits with ⟨row, listed, named, tariff, teacher⟩ | ⟨fresh, -, gives⟩
    · exact (moves _ _ _).mpr ⟨row, listed, named.trans key, tariff, teacher⟩
    · rcases (moves _ _ _).mp gives with ⟨row, listed, named, -, -⟩
      exact absurd (named.trans key.symm) (fresh row listed)
  refine ⟨some ⟨old.tariffId, old.teacherAccountId, some old.durationMinutes⟩,
    knows_some ⟨gives, fun id named => ?_⟩, ?_⟩
  · rcases suits_iff.mp (timed.suits slot) id named with ⟨tariff, found, duration, teacher⟩
    exact ⟨tariff, found, teacher, fun _ same => Option.some.inj same ▸ duration⟩
  · intro db own learnerAccountId now view fresh
    have holds := view.knows _ rfl
    exact may_open (slot ▸ rfl) view fresh rfl holds.gives (suits_of_holds holds)

attribute [local irreducible] Program.rescheduleSlotByTeacher Program.moveOpenSlot in
theorem upholds_slotAction (isTeacher : RowId -> Bool) (slot : actions session = .slot action) :
    (lessons actions).Upholds LevelChannel.store session none
      (action.program isTeacher session) := by
  have lenient := lenient_lessons slot
  cases action with
  | createSlot input =>
    dsimp only [SlotAction.program]
    refine upholds_createSlot isTeacher input fun startAt minutes given whole => ?_
    refine told_lessons (fun db => slot ▸ ⟨rfl, rfl⟩) fun known holds => ?_
    intro db own now view fresh
    exact may_open (slot ▸ rfl) view fresh rfl (holds db view.knows).gives
      (suits_of_holds (holds db view.knows))
  | bulkCreateSlots input =>
    dsimp only [SlotAction.program]
    refine upholds_bulkCreateSlots isTeacher input fun minutes whole => ?_
    refine told_lessons (fun db => slot ▸ ⟨rfl, rfl⟩) fun known holds index startAt given => ?_
    intro db own now view fresh
    exact may_open (slot ▸ rfl) view fresh rfl (holds db view.knows).gives
      (suits_of_holds (holds db view.knows))
  | moveOpenSlot slotId newStartAt owner =>
    dsimp only [SlotAction.program]
    refine upholds_moveOpenSlot slotId newStartAt owner fun db own old now view member _ _ => ?_
    rcases (slots_of_view view).2.1 old member with ⟨fits, timed⟩
    have moved : Fits db session (actions session) (old.movedTo newStartAt now) := fits
    have suits : Suits db (old.movedTo newStartAt now) := timed.suits slot
    have snapshot := revision_snapshot (old.movedTo newStartAt now) own.catalog
    exact may_slot (slot ▸ rfl) (Or.inr rfl) (moved.revised snapshot)
      (Or.inl (suits.revised snapshot))
  | bookSlot input => exact upholds_bookSlot lenient input
  | assignSlotDirect input =>
    dsimp only [SlotAction.program]
    refine upholds_assignSlotDirect lenient input ?_
    intro now startAt minutes given whole db own tariff view found teacher duration
    refine ⟨some ⟨some input.tariffId, input.teacherAccountId, some minutes⟩,
      knows_some ⟨slot ▸ ⟨rfl, rfl⟩, ?_⟩, ?_⟩
    · intro other named
      obtain rfl := Option.some.inj named
      exact ⟨tariff, (slots_of_view view).1 ▸ found, teacher,
        fun _ same => Option.some.inj same ▸ duration⟩
    · intro db own view fresh
      have holds := view.knows _ rfl
      exact may_open (slot ▸ rfl) view fresh rfl holds.gives (suits_of_holds holds)
  | rescheduleSlotByLearner slotId learnerAccountId newStartAt cancelWindowHours =>
    dsimp only [SlotAction.program]
    exact upholds_rescheduleSlotByLearner lenient _ _ _ _ fun startAt given =>
      movable_lessons slot fun _ _ _ => slot ▸ Iff.rfl
  | rescheduleSlotByTeacher slotId teacherAccountId newStartAt reason =>
    dsimp only [SlotAction.program]
    exact upholds_rescheduleSlotByTeacher lenient _ _ _ _ fun startAt given =>
      movable_lessons slot fun _ _ _ => slot ▸ Iff.rfl
  | cancelSlot slotId cancelledByAccountId reason actor =>
    exact upholds_cancelSlot lenient slotId cancelledByAccountId reason actor
  | cancelLearnerSlot slotId learnerAccountId reason envFallbackMinutes =>
    exact upholds_cancelLearnerSlot lenient slotId learnerAccountId reason envFallbackMinutes
  | cancelSlotByTeacher slotId teacherAccountId reason =>
    exact upholds_cancelSlotByTeacher lenient slotId teacherAccountId reason

end Slots

section Edits

variable {Known : Type} {upkeep : Upkeep Db LevelChannel.Write Known} {session : Nat}

theorem upholds_probeEdit {known : Known} (slotId : RowId) :
    upkeep.Upholds LevelChannel.store session known (Program.probeEdit slotId) := by
  refine upholds_query trivial fun _ _ _ => ?_
  split <;> trivial

/-- An edit writes a new version of an open slot that is there. -/
theorem upholds_editOpenSlot (slotId : RowId) (patch : SlotPatch) (ready : ∀ db own old now,
      upkeep.View LevelChannel.store session upkeep.nothing db own -> old ∈ own.slots ->
      old.id = slotId -> upkeep.may session db (.slot (.replace
        ((Program.editedRow patch now old).snapshotOnBook own.catalog)))) :
    upkeep.Upholds LevelChannel.store session upkeep.nothing
      (Program.editOpenSlot slotId patch) := by
  refine upholds_query trivial fun _ _ _ => ?_
  beta_reduce
  split
  · trivial
  · refine upholds_query trivial fun clock _ _ => ?_
    extract_lets
    refine upholds_query trivial fun _ _ _ => ?_
    split
    · exact upholds_probeEdit slotId
    · refine upholds_checkedOr trivial (fun message => trivial)
        (fun db own view _ write listed => ?_) fun own => ?_
      · rcases List.mem_map.mp listed with ⟨versions, made, rfl⟩
        rcases reached_of_slotUpdate (Option.mem_toList.mp made) with ⟨member, key, -, rewritten⟩
        rw [rewritten]
        exact ready db own versions.1 clock.clock view member key
      · beta_reduce
        split
        · exact ⟨trivial, trivial⟩
        · exact ⟨trivial, upholds_probeEdit slotId⟩

/-- The row an edit leaves has the duration of the old one, or the one the edit sets. -/
theorem timed_edited {actions : Nat -> Action} {db : Db} {slotId : RowId} {patch : SlotPatch}
    (edit : actions session = .editOpenSlot slotId patch) {old : LessonSlot}
    (key : old.id = slotId) (timed : Timed db (actions session) old) (now : Nat) :
    Timed db (actions session) (Program.editedRow patch now old) := by
  have owned : Owned db old := by
    rcases timed with suits | ⟨_, _, _, owned⟩
    · intro id named
      rcases suits_iff.mp suits id named with ⟨tariff, found, -, teacher⟩
      exact ⟨tariff, found, teacher⟩
    · exact owned
  have kept (same : (Program.editedRow patch now old).durationMinutes = old.durationMinutes)
      (other : ∀ minutes, patch.durationMinutes ≠ some (.integer minutes)) :
      Timed db (actions session) (Program.editedRow patch now old) := by
    rcases timed with suits | ⟨minutes, sets, -⟩
    · left
      rw [Suits] at suits ⊢
      rwa [same]
    · rw [edit] at sets
      exact absurd sets.2 (other minutes)
  cases given : patch.durationMinutes with
  | none => exact kept (by simp only [Program.editedRow, given]) (by simp [given])
  | some number =>
    cases number with
    | fractional => exact kept (by simp only [Program.editedRow, given]) (by simp [given])
    | integer minutes =>
      refine Or.inr ⟨minutes, ?_, ?_, owned⟩
      · rw [edit]
        exact ⟨key.symm, given⟩
      · simp only [Program.editedRow, given]

theorem upholds_edit {actions : Nat -> Action} {slotId : RowId} {patch : SlotPatch}
    (edit : actions session = .editOpenSlot slotId patch) :
    (lessons actions).Upholds LevelChannel.store session none
      (Program.editOpenSlot slotId patch) := by
  refine upholds_editOpenSlot slotId patch fun db own old now view member key => ?_
  rcases (slots_of_view view).2.1 old member with ⟨fits, timed⟩
  have edited : Fits db session (actions session) (Program.editedRow patch now old) := fits
  have snapshot := revision_snapshot (Program.editedRow patch now old) own.catalog
  refine may_slot (edit ▸ rfl) (Or.inr rfl) (edited.revised snapshot) ?_
  rcases timed_edited edit key timed now with suits | ⟨minutes, sets, duration, owned⟩
  · exact Or.inl (suits.revised snapshot)
  · refine Or.inr ⟨minutes, snapshot.id ▸ sets, snapshot.durationMinutes.trans duration, ?_⟩
    intro id named
    rcases owned id (snapshot.tariffId ▸ named) with ⟨tariff, found, teacher⟩
    exact ⟨tariff, found, snapshot.teacherAccountId ▸ teacher⟩

end Edits

/-! ## Programs on all rows -/

section Programs

variable {actions : Nat -> Action} {session : Nat} {known : Option Learned} {db own : Db}

/-- Whatever a slot request has queued, it has queued without tariffs. -/
theorem lessons_of_may {action : Action} (slots : action.onSlots = true) {writes : List Write}
    (allowed : ∀ write, write ∈ writes -> May db session action write) :
    ∃ inner : List LevelChannel.Write, writes = inner.map Write.lesson := by
  induction writes with
  | nil => exact ⟨[], rfl⟩
  | cons write writes extend =>
    rcases extend fun other listed => allowed other (List.mem_cons_of_mem _ listed) with
      ⟨inner, rfl⟩
    cases write with
    | lesson write => exact ⟨write :: inner, rfl⟩
    | tariff id tariff =>
      exact absurd (slots.symm.trans (allowed _ List.mem_cons_self).1) Bool.noConfusion

theorem applyAll_lessons (db : Db) (inner : List LevelChannel.Write) :
    store.applyAll db (inner.map Write.lesson) = LevelChannel.store.applyAll db inner := by
  induction inner generalizing db with
  | nil => rfl
  | cons write inner extend =>
    rw [List.map_cons, Store.applyAll_cons, Store.applyAll_cons]
    exact extend (db.apply write)

theorem upholds_lesson {program : Program} (slots : (actions session).onSlots = true)
    (upholds : (lessons actions).Upholds LevelChannel.store session known program) :
    (keeping actions).Upholds store session known (TariffProgram.lesson program) := by
  induction program generalizing known with
  | done result => trivial
  | crashed => trivial
  | statement label locks onError writes next failed went =>
    refine ⟨failed upholds.1, fun db own view => ?_⟩
    rcases view.queued with ⟨pending, allowed, rfl⟩
    rcases lessons_of_may slots allowed with ⟨inner, rfl⟩
    have seen : (lessons actions).View LevelChannel.store session known db
        (store.applyAll db (inner.map Write.lesson)) :=
      ⟨view.good, view.knows, inner, fun write listed =>
        allowed _ (List.mem_map_of_mem listed), applyAll_lessons db inner⟩
    rcases upholds.2 db _ seen with ⟨queued, learned, knows, onward⟩
    refine ⟨fun write listed => ?_, learned, knows, went db _ onward⟩
    rcases List.mem_map.mp listed with ⟨own, member, rfl⟩
    exact queued own member
  | commit onError next failed went => exact ⟨failed upholds.1, went upholds.2⟩
  | rollback next went => exact went upholds
  | call label writes next went => exact upholds.elim

/-- What a tariff request has queued leaves slots alone, and writes tariffs that may be
written. -/
theorem tariffs_of_may {action : Action} (tariffs : action.onSlots = false) {writes : List Write}
    (allowed : ∀ write, write ∈ writes -> May db session action write) :
    (store.applyAll db writes).slots = db.slots ∧ ∀ id,
      (store.applyAll db writes).catalog.tariff id = db.catalog.tariff id ∨
        ∃ tariff, Write.tariff id tariff ∈ writes ∧
          (store.applyAll db writes).catalog.tariff id = some tariff := by
  have step : ∀ (before : Db), (store.applyAll before writes).slots = before.slots ∧
      ∀ id, (store.applyAll before writes).catalog.tariff id = before.catalog.tariff id ∨
        ∃ tariff, Write.tariff id tariff ∈ writes ∧
          (store.applyAll before writes).catalog.tariff id = some tariff := by
    induction writes with
    | nil => exact fun before => ⟨rfl, fun id => Or.inl rfl⟩
    | cons write writes extend =>
      intro before
      rw [Store.applyAll_cons]
      rcases extend (fun other listed => allowed other (List.mem_cons_of_mem _ listed))
        (store.apply before write) with ⟨slots, read⟩
      cases write with
      | lesson write =>
        exact absurd ((allowed _ List.mem_cons_self).1.symm.trans tariffs) Bool.noConfusion
      | tariff own row =>
        refine ⟨slots, fun id => ?_⟩
        rcases read id with same | ⟨tariff, listed, found⟩
        · by_cases here : id = own
          · subst here
            refine Or.inr ⟨row, List.mem_cons_self, same.trans ?_⟩
            exact Function.update_self id (some row) before.catalog.tariff
          · have apart : (setTariff before own row).catalog.tariff id =
                before.catalog.tariff id := Function.update_of_ne here _ _
            exact Or.inl (same.trans apart)
        · exact Or.inr ⟨tariff, List.mem_cons_of_mem _ listed, found⟩
  exact step db

/-- What a tariff request sees. -/
theorem tariffs_of_view (tariffs : (actions session).onSlots = false)
    (view : (keeping actions).View store session known db own) :
    own.slots = db.slots ∧ ∀ id, own.catalog.tariff id = db.catalog.tariff id ∨
      ∃ tariff, own.catalog.tariff id = some tariff ∧ Tariffed db session id tariff := by
  rcases view.queued with ⟨pending, allowed, rfl⟩
  rcases tariffs_of_may tariffs allowed with ⟨slots, read⟩
  refine ⟨slots, fun id => (read id).imp_right ?_⟩
  rintro ⟨tariff, listed, found⟩
  exact ⟨tariff, found, (allowed _ listed).2⟩

theorem upholds_tariffQuery {next : Db -> TariffProgram}
    (went : ∀ committed, (keeping actions).Upholds store session known (next committed)) :
    (keeping actions).Upholds store session known (TariffProgram.query next) :=
  ⟨trivial, fun committed _ view =>
    ⟨fun _ listed => absurd listed List.not_mem_nil, known, view.knows, went committed⟩⟩

theorem upholds_whileUnreferenced {id : RowId} {field : Option JsonNumber} {name : String}
    {current : PricingTariff -> Nat} {next : TariffProgram}
    (went : (keeping actions).Upholds store session known next) :
    (keeping actions).Upholds store session known
      (TariffProgram.whileUnreferenced id field name current next) := by
  unfold TariffProgram.whileUnreferenced
  split
  · exact went
  · refine upholds_tariffQuery fun committed => ?_
    split
    · refine upholds_tariffQuery fun committed => ?_
      split
      · trivial
      · exact went
    · exact went

/-- The update of a tariff that keeps its teacher: the triggers have found no slot where the
terms change. -/
theorem upholds_writeTariff (tariffs : (actions session).onSlots = false) (id : RowId)
    (where_ : PricingTariff -> Bool) {set_ : PricingTariff -> PricingTariff}
    (teacher : ∀ row, (set_ row).teacherId = row.teacherId) :
    (keeping actions).Upholds store session known (TariffProgram.writeTariff id where_ set_) := by
  refine ⟨trivial, fun db own view => ⟨fun write listed => ?_, known, view.knows, ?_⟩⟩
  · rcases tariffs_of_view tariffs view with ⟨slots, read⟩
    beta_reduce at listed
    split at listed
    · cases listed
    · next row found =>
      split at listed
      · cases listed
      · next passed =>
        obtain rfl := List.mem_singleton.mp listed
        have here := (Option.filter_eq_some_iff.mp found).1
        refine ⟨tariffs, fun old there => ?_, fun none => ?_⟩
        · have base : row.teacherId = old.teacherId ∧ (referenced db id = true ->
              row.amountKopecks = old.amountKopecks ∧
                row.durationMinutes = old.durationMinutes) := by
            rcases read id with same | ⟨tariff, seen, may⟩
            · obtain rfl := Option.some.inj (here.symm.trans (same.trans there))
              exact ⟨rfl, fun _ => ⟨rfl, rfl⟩⟩
            · obtain rfl := Option.some.inj (here.symm.trans seen)
              exact may.there old there
          refine ⟨(teacher row).trans base.1, fun refers => ?_⟩
          have still : referenced own id = true := by rwa [referenced, slots]
          simp only [TariffProgram.frozenRejects, still, Bool.and_true, Bool.or_eq_true,
            decide_eq_true_eq, not_or, not_not] at passed
          exact ⟨passed.1.trans (base.2 refers).1, passed.2.trans (base.2 refers).2⟩
        · rcases read id with same | ⟨tariff, seen, may⟩
          · cases here.symm.trans (same.trans none)
          · exact may.minted none
  · beta_reduce
    split
    · exact ⟨trivial, trivial⟩
    · split
      · trivial
      · exact ⟨trivial, trivial⟩

theorem upholds_createTariff {teacherId : RowId} {input : TariffPatch}
    (tariffs : (actions session).onSlots = false) : (keeping actions).Upholds store session known
      (TariffProgram.createTariffForTeacher session teacherId input) := by
  unfold TariffProgram.createTariffForTeacher
  generalize validateTariffInput input = failed
  split
  · trivial
  · split
    · refine ⟨trivial, fun db own view => ⟨fun write listed => ?_, known, view.knows, ?_⟩⟩
      · beta_reduce at listed
        split at listed
        · cases listed
        · next free =>
          obtain rfl := List.mem_singleton.mp listed
          refine ⟨tariffs, fun old there => ?_, fun _ => rfl⟩
          rcases (tariffs_of_view tariffs view).2 (.minted session 0) with same | ⟨_, seen, -⟩
          · exact absurd (by rw [same, there]; rfl) free
          · exact absurd (by rw [seen]; rfl) free
      · beta_reduce
        split
        · trivial
        · exact ⟨trivial, trivial⟩
    · trivial
    · trivial
    · trivial

theorem upholds_guardedUpdate (tariffs : (actions session).onSlots = false) (id : RowId)
    (patch : TariffPatch) (where_ : PricingTariff -> Bool) :
    (keeping actions).Upholds store session known (TariffProgram.guardedUpdate id patch where_) :=
  upholds_whileUnreferenced (upholds_whileUnreferenced
    (upholds_writeTariff tariffs id where_ fun _ => rfl))

/-- Every request upholds the terms. -/
theorem upholds_program (isTeacher : RowId -> Bool) (actions : Nat -> Action) (session : Nat) :
    (keeping actions).Upholds store session none ((actions session).program isTeacher session) := by
  cases action : actions session with
  | slot own => exact upholds_lesson (action ▸ rfl) (upholds_slotAction isTeacher action)
  | editOpenSlot slotId patch => exact upholds_lesson (action ▸ rfl) (upholds_edit action)
  | createTariffForTeacher teacherId input => exact upholds_createTariff (action ▸ rfl)
  | updateTariff id patch =>
    dsimp only [Action.program]
    unfold TariffProgram.updateTariff
    generalize validateTariffInput patch = failed
    split
    · trivial
    · exact upholds_guardedUpdate (action ▸ rfl) _ _ _
  | updateTariffForTeacher id teacherId patch =>
    dsimp only [Action.program]
    unfold TariffProgram.updateTariffForTeacher
    generalize validateTariffInput patch = failed
    split
    · trivial
    · refine upholds_tariffQuery fun committed => ?_
      split
      · exact upholds_guardedUpdate (action ▸ rfl) _ _ _
      · trivial
  | softDeleteTariffForTeacher id teacherId =>
    exact upholds_writeTariff (action ▸ rfl) id _ fun _ => rfl

end Programs

/-- What the other session has seen and queued is as good as before. -/
structure Spares (db after : Db) (session : Nat) (action : Action) (pending : List Write) :
    Prop where
  slots : ∀ old, old ∈ db.slots -> ∃ now, now ∈ after.slots ∧ now.id = old.id ∧
    now.tariffId = old.tariffId ∧ now.teacherAccountId = old.teacherAccountId
  fresh : ∀ now, now ∈ after.slots ->
    (∃ old, old ∈ db.slots ∧ old.id = now.id) ∨ now.id.minter ≠ some session
  tariffs : ∀ id old, db.catalog.tariff id = some old -> ∃ new,
    after.catalog.tariff id = some new ∧ new.teacherId = old.teacherId ∧
      (referenced db id = true ∨ action.names id -> new.durationMinutes = old.durationMinutes) ∧
        (referenced after id = true -> new.amountKopecks = old.amountKopecks ∧
          new.durationMinutes = old.durationMinutes)
  absent : ∀ id, db.catalog.tariff id = none ->
    after.catalog.tariff id = none ∨ id.minter ≠ some session
  changes : ∀ id tariff old, Write.tariff id tariff ∈ pending ->
    referenced after id = true -> referenced db id = false -> db.catalog.tariff id = some old ->
      tariff.amountKopecks = old.amountKopecks ∧ tariff.durationMinutes = old.durationMinutes

section Spared

variable {actions : Nat -> Action} {db after : Db} {session : Nat} {action : Action}
  {pending : List Write} {row : LessonSlot} {tariffId : Option RowId} {teacherAccountId : RowId}

theorem rests_of_gives {id : RowId} (gives : action.gives db (some id) teacherAccountId) :
    referenced db id = true ∨ action.names id := by
  unfold Action.gives at gives
  split at gives
  · exact Or.inr gives.1.symm
  · exact Or.inr gives.1.symm
  · exact Or.inr (Option.some.inj gives.1).symm
  all_goals
    first
    | exact gives.elim
    | rcases gives with ⟨old, listed, -, tariff, -⟩
      exact Or.inl (referenced_iff.mpr ⟨old, listed, tariff.symm⟩)

theorem rests_of_fits {id : RowId} (fits : Fits db session action row)
    (named : row.tariffId = some id) : referenced db id = true ∨ action.names id := by
  rcases fits with ⟨old, listed, -, tariff, -⟩ | ⟨-, -, gives⟩
  · exact Or.inl (referenced_iff.mpr ⟨old, listed, tariff.symm.trans named⟩)
  · exact rests_of_gives (named ▸ gives)

namespace Spares

variable (spares : Spares db after session action pending)

include spares

theorem gives (before : action.gives db tariffId teacherAccountId) :
    action.gives after tariffId teacherAccountId := by
  unfold Action.gives at before ⊢
  split at before
  · exact before
  · exact before
  · exact before
  all_goals
    first
    | exact before
    | rcases before with ⟨old, listed, key, tariff, teacher⟩
      rcases spares.slots old listed with ⟨now, member, same, tariffs, teachers⟩
      exact ⟨now, member, same.trans key, tariff.trans tariffs.symm, teacher.trans teachers.symm⟩

theorem fits (before : Fits db session action row) : Fits after session action row := by
  rcases before with ⟨old, listed, key, tariff, teacher⟩ | ⟨fresh, minted, gives⟩
  · rcases spares.slots old listed with ⟨now, member, same, tariffs, teachers⟩
    exact Or.inl ⟨now, member, same.trans key, tariff.trans tariffs.symm,
      teacher.trans teachers.symm⟩
  · refine Or.inr ⟨fun now listed key => ?_, minted, spares.gives gives⟩
    rcases spares.fresh now listed with ⟨old, member, same⟩ | other
    · exact fresh old member (same.trans key)
    · exact other (key ▸ minted)

theorem suits (fits : Fits db session action row) (before : Suits db row) : Suits after row := by
  refine suits_iff.mpr fun id named => ?_
  rcases suits_iff.mp before id named with ⟨old, found, duration, teacher⟩
  rcases spares.tariffs id old found with ⟨new, now, teachers, durations, -⟩
  exact ⟨new, now, (durations (rests_of_fits fits named)).trans duration, teachers.trans teacher⟩

theorem timed (fits : Fits db session action row) (before : Timed db action row) :
    Timed after action row := by
  rcases before with suits | ⟨minutes, sets, duration, owned⟩
  · exact Or.inl (spares.suits fits suits)
  · refine Or.inr ⟨minutes, sets, duration, fun id named => ?_⟩
    rcases owned id named with ⟨old, found, teacher⟩
    rcases spares.tariffs id old found with ⟨new, now, teachers, -⟩
    exact ⟨new, now, teachers.trans teacher⟩

theorem tariffed {id : RowId} {tariff : PricingTariff} (queued : Write.tariff id tariff ∈ pending)
    (before : Tariffed db session id tariff) : Tariffed after session id tariff := by
  constructor
  · intro new now
    cases found : db.catalog.tariff id with
    | none =>
      rcases spares.absent id found with gone | other
      · cases gone.symm.trans now
      · exact absurd (before.minted found) other
    | some old =>
      rcases spares.tariffs id old found with ⟨same, there, teachers, -, terms⟩
      obtain rfl := Option.some.inj (there.symm.trans now)
      refine ⟨(before.there old found).1.trans teachers.symm, fun refers => ?_⟩
      have kept : tariff.amountKopecks = old.amountKopecks ∧
          tariff.durationMinutes = old.durationMinutes := by
        cases first : referenced db id with
        | true => exact (before.there old found).2 first
        | false => exact spares.changes id tariff old queued refers first found
      exact ⟨kept.1.trans (terms refers).1.symm, kept.2.trans (terms refers).2.symm⟩
  · intro gone
    cases found : db.catalog.tariff id with
    | none => exact before.minted found
    | some old =>
      rcases spares.tariffs id old found with ⟨new, now, -, -⟩
      cases gone.symm.trans now

theorem holds {learned : Learned} (before : learned.Holds action db) :
    learned.Holds action after := by
  refine ⟨spares.gives before.gives, fun id named => ?_⟩
  rcases before.tariff id named with ⟨old, found, teacher, duration⟩
  rcases spares.tariffs id old found with ⟨new, now, teachers, durations, -⟩
  have rests := rests_of_gives (named ▸ before.gives)
  exact ⟨new, now, teachers.trans teacher, fun minutes known =>
    (durations rests).trans (duration minutes known)⟩

end Spares

/-- A session stands as it did where it is spared. -/
theorem stands_of_spares {program : TariffProgram}
    (stands : (keeping actions).Stands store session db pending program)
    (spares : Spares db after session (actions session) pending) :
    (keeping actions).Stands store session after pending program := by
  rcases stands with ended | ⟨queued, known, knows, upholds⟩
  · exact Or.inl ended
  refine Or.inr ⟨fun write listed => ?_, known, fun learned same =>
    spares.holds (knows learned same), upholds⟩
  have before := queued write listed
  cases write with
  | lesson write =>
    exact ⟨before.1, before.2.1, fun row wrote =>
      ⟨spares.fits (before.2.2 row wrote).1, spares.timed (before.2.2 row wrote).1
        (before.2.2 row wrote).2⟩⟩
  | tariff id tariff => exact ⟨before.1, spares.tariffed listed before.2⟩

end Spared

/-- The request has not begun, or is over. -/
def Idle (isTeacher : RowId -> Bool) (actions : Nat -> Action) (state : State) (session : Nat) :
    Prop :=
  (state.sessions session).program.ended ∨ (state.sessions session).pending = [] ∧
    (state.sessions session).program = (actions session).program isTeacher session

/-- No tariff's duration is changed while a request for slots that names it is under way, the
first slot of a tariff is committed while nobody has changed its terms and not committed yet,
and an edit that sets a duration sets that of the slot's tariff. -/
structure Undisturbed (isTeacher : RowId -> Bool) (actions : Nat -> Action) (state : State)
    (event : ReadCommitted.Event Drift GatewayAnswer) : Prop where
  durations : ∀ session, state.committing event = some session -> ∀ id tariff old,
    Write.tariff id tariff ∈ (state.sessions session).pending ->
    state.db.catalog.tariff id = some old -> tariff.durationMinutes ≠ old.durationMinutes ->
      ∀ other, other ≠ session -> (actions other).names id ->
        Idle isTeacher actions state other
  references : ∀ session, state.committing event = some session -> ∀ row id,
    Write.lesson (.slot (.insert row)) ∈ (state.sessions session).pending ∨
      Write.lesson (.slot (.replace row)) ∈ (state.sessions session).pending ->
    row.tariffId = some id -> referenced state.db id = false ->
      ∀ other, other ≠ session -> ∀ tariff old,
        Write.tariff id tariff ∈ (state.sessions other).pending ->
        state.db.catalog.tariff id = some old ->
          tariff.amountKopecks = old.amountKopecks ∧ tariff.durationMinutes = old.durationMinutes
  edits : ∀ session, state.committing event = some session ->
    (state.sessions session).pending ≠ [] -> ∀ slotId minutes,
    (actions session).sets slotId minutes -> ∀ slot, slot ∈ state.db.slots ->
    slot.id = slotId -> ∀ id, slot.tariffId = some id -> ∀ tariff,
    state.db.catalog.tariff id = some tariff -> tariff.durationMinutes = minutes.toNat

section Kept

variable {isTeacher : RowId -> Bool} {actions : Nat -> Action} {state : State}
  {event : ReadCommitted.Event Drift GatewayAnswer} {session : Nat}

/-- Nothing about slots and tariffs changes. -/
theorem keeps_of_same {db : Db} (upheld : (keeping actions).Upheld store state)
    (slots : db.slots = state.db.slots) (catalog : db.catalog.tariff = state.db.catalog.tariff) :
    (keeping actions).Keeps store state (fun _ => True) db where
  good := by
    refine ⟨fun row listed => ?_, ?_⟩
    · rw [Suits, catalog]
      exact upheld.1.1 row (slots ▸ listed)
    · rw [Agreeing, slots]
      exact upheld.1.2
  moves := by
    refine ⟨fun id _ => ?_, fun id is => ?_⟩
    · rw [terms, terms, catalog]
    · rwa [referenced, slots]
  others other _ := by
    refine stands_of_spares (upheld.2 other)
      ⟨fun old listed => ?_, fun now listed => ?_, fun id old found => ?_, fun id none => ?_, ?_⟩
    · exact ⟨old, slots ▸ listed, rfl, rfl, rfl⟩
    · exact Or.inl ⟨now, slots ▸ listed, rfl⟩
    · exact ⟨old, catalog ▸ found, rfl, fun _ => rfl, fun _ => ⟨rfl, rfl⟩⟩
    · exact Or.inl (catalog ▸ none)
    · intro id tariff old _ refers first _
      rw [referenced, slots, ← referenced, first] at refers
      cases refers

/-- A slot that comes from outside has no tariff. -/
theorem keeps_of_brought {row : LessonSlot} (upheld : (keeping actions).Upheld store state)
    (plain : row.tariffId = none) (new : get LessonSlot.id state.db.slots row.id = none)
    (outside : row.id.minter = none) :
    (keeping actions).Keeps store state (fun _ => True)
      { state.db with slots := state.db.slots ++ [row] } := by
  have fresh (old : LessonSlot) (listed : old ∈ state.db.slots) : old.id ≠ row.id := by
    intro key
    have found := get_isSome_of_mem LessonSlot.id listed
    rw [key, new] at found
    cases found
  have same (id : RowId) : referenced { state.db with slots := state.db.slots ++ [row] } id =
      referenced state.db id := by
    simp [referenced, plain]
  refine ⟨⟨fun slot listed => ?_, fun slot listed other member key => ?_⟩,
    ⟨fun id _ => rfl, fun id is => (same id).trans is⟩, fun other _ => ?_⟩
  · rcases List.mem_append.mp listed with before | here
    · exact upheld.1.1 slot before
    · obtain rfl := List.mem_singleton.mp here
      rw [Suits, plain]
      rfl
  · rcases List.mem_append.mp listed with before | here
    · rcases List.mem_append.mp member with also | there
      · exact upheld.1.2 slot before other also key
      · obtain rfl := List.mem_singleton.mp there
        exact absurd key (fresh slot before)
    · obtain rfl := List.mem_singleton.mp here
      rcases List.mem_append.mp member with also | there
      · exact absurd key.symm (fresh other also)
      · obtain rfl := List.mem_singleton.mp there
        exact ⟨rfl, rfl⟩
  · refine stands_of_spares (upheld.2 other)
      ⟨fun old listed => ?_, fun now listed => ?_, fun id old found => ?_, fun id none => ?_, ?_⟩
    · exact ⟨old, List.mem_append_left _ listed, rfl, rfl, rfl⟩
    · rcases List.mem_append.mp listed with before | here
      · exact Or.inl ⟨now, before, rfl⟩
      · obtain rfl := List.mem_singleton.mp here
        exact Or.inr (by simp [outside])
    · exact ⟨old, found, rfl, fun _ => rfl, fun _ => ⟨rfl, rfl⟩⟩
    · exact Or.inl none
    · intro id tariff old _ refers first _
      rw [same, first] at refers
      cases refers

/-- A row of a slot that is committed suits its tariff, also where an edit has set its
duration. -/
theorem suits_of_queued (undisturbed : Undisturbed isTeacher actions state event)
    (commits : state.committing event = some session) {write : LevelChannel.Write}
    (queued : Write.lesson write ∈ (state.sessions session).pending)
    (may : May state.db session (actions session) (.lesson write)) {row : LessonSlot}
    (wrote : write = .slot (.insert row) ∨ write = .slot (.replace row)) :
    Suits state.db row := by
  rcases may.2.2 row wrote with ⟨fits, suits | ⟨minutes, sets, duration, owned⟩⟩
  · exact suits
  refine suits_iff.mpr fun id named => ?_
  rcases owned id named with ⟨tariff, found, teacher⟩
  rcases fits with ⟨old, listed, key, same, -⟩ | ⟨-, -, gives⟩
  · exact ⟨tariff, found, (undisturbed.edits session commits (List.ne_nil_of_mem queued) _ _ sets
      old listed key id (same.symm.trans named) tariff found).trans duration.symm, teacher⟩
  · -- an edit opens no slot
    cases action : actions session with
    | editOpenSlot slotId patch =>
      rw [action] at gives
      exact gives.elim
    | _ =>
      rw [action] at sets
      exact sets.elim

/-- Slots are committed: every one suits its tariff, and those that are there stay. -/
theorem keeps_of_slots (upheld : (keeping actions).Upheld store state)
    (undisturbed : Undisturbed isTeacher actions state event)
    (commits : state.committing event = some session)
    (queued : ∀ write, write ∈ (state.sessions session).pending ->
      May state.db session (actions session) write) (slots : (actions session).onSlots = true) :
    (keeping actions).Keeps store state (fun other => other ≠ session)
      (state.view store session) := by
  rcases lessons_of_may slots queued with ⟨inner, parts⟩
  have after : state.view store session = LevelChannel.store.applyAll state.db inner := by
    rw [State.view, parts, applyAll_lessons]
  have allowed : ∀ write, write ∈ inner ->
      May state.db session (actions session) (.lesson write) := fun write listed =>
    queued _ (parts ▸ List.mem_map_of_mem listed)
  have written := slots_of_writes upheld.1 allowed
  have catalog := tariff_applyAll state.db inner
  have suits : ∀ row, row ∈ (LevelChannel.store.applyAll state.db inner).slots ->
      Suits state.db row := by
    intro row listed
    rcases mem_slots_applyAll listed with before | ⟨write, member, wrote⟩
    · exact upheld.1.1 row before
    · exact suits_of_queued undisturbed commits (parts ▸ List.mem_map_of_mem member)
        (allowed write member) wrote
  rw [after]
  refine ⟨⟨fun row listed => ?_, fun row listed other member key => ?_⟩,
    ⟨fun id _ => ?_, fun id is => ?_⟩, fun other distinct => ?_⟩
  · rw [Suits, catalog]
    exact suits row listed
  · exact Fits.agree upheld.1.2 (written.1 row listed).1 (written.1 other member).1 key
  · rw [terms, terms, catalog]
  · rcases referenced_iff.mp is with ⟨old, listed, named⟩
    rcases written.2 old listed with ⟨now, member, -, tariff, -⟩
    exact referenced_iff.mpr ⟨now, member, tariff.trans named⟩
  · refine stands_of_spares (upheld.2 other) ⟨written.2, fun now listed => ?_,
      fun id old found => ?_, fun id none => ?_, ?_⟩
    · rcases (written.1 now listed).1 with ⟨old, member, key, -, -⟩ | ⟨-, minted, -⟩
      · exact Or.inl ⟨old, member, key⟩
      · exact Or.inr fun mine => distinct (Option.some.inj (mine.symm.trans minted))
    · exact ⟨old, catalog ▸ found, rfl, fun _ => rfl, fun _ => ⟨rfl, rfl⟩⟩
    · exact Or.inl (catalog ▸ none)
    · intro id tariff old change refers first found
      rcases referenced_iff.mp refers with ⟨row, listed, named⟩
      rcases mem_slots_applyAll listed with before | ⟨write, member, wrote⟩
      · rw [referenced_iff.mpr ⟨row, before, named⟩] at first
        cases first
      · refine undisturbed.references session commits row id ?_ named first other distinct tariff
          old change found
        rw [parts]
        rcases wrote with rfl | rfl
        · exact Or.inl (List.mem_map_of_mem member)
        · exact Or.inr (List.mem_map_of_mem member)

/-- Tariffs are committed: those that slots refer to keep their terms. -/
theorem keeps_of_tariffs (upheld : (keeping actions).Upheld store state)
    (undisturbed : Undisturbed isTeacher actions state event)
    (commits : state.committing event = some session)
    (queued : ∀ write, write ∈ (state.sessions session).pending ->
      May state.db session (actions session) write) (tariffs : (actions session).onSlots = false) :
    (keeping actions).Keeps store state (fun other => other ≠ session)
      (state.view store session) := by
  rcases tariffs_of_may tariffs queued with ⟨slots, read⟩
  rw [← State.view] at slots read
  have still (id : RowId) : referenced (state.view store session) id = referenced state.db id := by
    rw [referenced, slots, ← referenced]
  have moved (id : RowId) (old : PricingTariff) (found : state.db.catalog.tariff id = some old) :
      ∃ new, (state.view store session).catalog.tariff id = some new ∧
        new.teacherId = old.teacherId ∧ (referenced state.db id = true ->
          new.amountKopecks = old.amountKopecks ∧ new.durationMinutes = old.durationMinutes) := by
    rcases read id with same | ⟨tariff, listed, now⟩
    · exact ⟨old, same.trans found, rfl, fun _ => ⟨rfl, rfl⟩⟩
    · exact ⟨tariff, now, (queued _ listed).2.there old found⟩
  refine ⟨⟨fun row listed => ?_, ?_⟩, ⟨fun id is => ?_, fun id is => (still id).trans is⟩,
    fun other distinct => ?_⟩
  · rw [slots] at listed
    refine suits_iff.mpr fun id named => ?_
    rcases suits_iff.mp (upheld.1.1 row listed) id named with ⟨old, found, duration, teacher⟩
    rcases moved id old found with ⟨new, now, teachers, terms⟩
    exact ⟨new, now, (terms (referenced_iff.mpr ⟨row, listed, named⟩)).2.trans duration,
      teachers.trans teacher⟩
  · rw [Agreeing, slots]
    exact upheld.1.2
  · rcases referenced_iff.mp is with ⟨row, listed, named⟩
    rcases suits_iff.mp (upheld.1.1 row listed) id named with ⟨old, found, -, -⟩
    rcases moved id old found with ⟨new, now, -, same⟩
    rw [terms, terms, now, found, Option.map_some, Option.map_some, (same is).1, (same is).2]
  · -- a request that has not begun may find another duration
    by_cases idle : Idle isTeacher actions state other
    · rcases idle with ended | ⟨nothing, unbegun⟩
      · exact Or.inl ended
      · rw [nothing, unbegun]
        exact Upkeep.stands_afresh (upholds_program isTeacher actions other)
    · refine stands_of_spares (upheld.2 other) ⟨fun old listed => ?_, fun now listed => ?_,
        fun id old found => ?_, fun id none => ?_, ?_⟩
      · exact ⟨old, slots ▸ listed, rfl, rfl, rfl⟩
      · exact Or.inl ⟨now, slots ▸ listed, rfl⟩
      · rcases moved id old found with ⟨new, now, teachers, same⟩
        refine ⟨new, now, teachers, ?_, fun is => same ((still id).symm.trans is)⟩
        rintro (is | names)
        · exact (same is).2
        · by_contra differs
          rcases read id with unchanged | ⟨tariff, listed, written⟩
          · rw [unchanged, found] at now
            exact differs (Option.some.inj now ▸ rfl)
          · rw [written] at now
            obtain rfl := Option.some.inj now
            exact idle (undisturbed.durations session commits id tariff old listed found differs
              other distinct names)
      · rcases read id with same | ⟨tariff, listed, -⟩
        · exact Or.inl (same.trans none)
        · exact Or.inr fun mine => distinct (Option.some.inj (mine.symm.trans
            ((queued _ listed).2.minted none)))
      · intro id tariff old _ refers first _
        rw [still, first] at refers
        cases refers

/-- The condition lets nothing else move. -/
theorem steady_keeping : (keeping actions).Steady store (Undisturbed isTeacher actions) where
  commit state event session undisturbed upheld commits queued := by
    cases slots : (actions session).onSlots with
    | true => exact keeps_of_slots upheld undisturbed commits queued slots
    | false => exact keeps_of_tariffs upheld undisturbed commits queued slots
  close state session upheld := keeps_of_same upheld rfl rfl
  drift state change _ upheld := by
    cases change with
    | slot row =>
      simp only [store, drift]
      split
      · next plain =>
        rw [Db.drift]
        split
        · next new =>
          simp only [Bool.and_eq_true, Option.isNone_iff_eq_none] at new plain
          exact keeps_of_brought upheld plain new.1.1 new.1.2
        · exact keeps_of_same upheld rfl rfl
      · exact keeps_of_same upheld rfl rfl
    | allocation row =>
      simp only [store, drift, Db.drift, Db.allocate]
      split <;> exact keeps_of_same upheld rfl rfl
    | _ => exact keeps_of_same upheld rfl rfl

/-- In an undisturbed run every slot suits its tariff, and no tariff changes that a slot refers
to. -/
theorem tariff_terms_kept {db : Db} {middle last : State} (consistent : Consistent db)
    (unique : Tables.Unique LessonSlot.id db.slots)
    (before : ReachesWhen store (Undisturbed isTeacher actions) (opening isTeacher db actions)
      middle) (reached : ReachesWhen store (Undisturbed isTeacher actions) middle last) :
    Consistent last.db ∧ Frozen middle.db last.db := by
  have trans {first second third : Db} (one : Onward first second) (two : Onward second third) :
      Onward first third :=
    ⟨fun id is => (two.terms id (one.references id is)).trans (one.terms id is),
      fun id is => two.references id (one.references id is)⟩
  have agreeing : Agreeing db := by
    intro row listed other member key
    have same := (get_of_mem unique listed).symm.trans (key ▸ get_of_mem unique member)
    obtain rfl := Option.some.inj same
    exact ⟨rfl, rfl⟩
  have good : (keeping actions).good db := ⟨consistent, agreeing⟩
  have start : (keeping actions).Upheld store (opening isTeacher db actions) :=
    Upkeep.upheld_start good (upholds_program isTeacher actions)
  have halfway := (start.reaches steady_keeping trans before).1
  have kept := halfway.reaches steady_keeping trans reached
  refine ⟨kept.1.1.1, fun row listed id named => ?_⟩
  exact kept.2.terms id (referenced_iff.mpr ⟨row, listed, named⟩)

end Kept

/-! ## An edit, and a race -/

def hourTariff : Db :=
  setTariff Db.empty (.seeded 3) ⟨some (.seeded 7), 60, 100000, true, false, false⟩

def openHour : Action :=
  .slot (.createSlot ⟨.seeded 7, some (7 * 3600000), .integer 60, none, some (.seeded 3)⟩)

def priced (number : Nat) (amountKopecks : Int) : Action :=
  .updateTariff (.seeded number) ⟨none, none, none, some (.integer amountKopecks), none, none⟩

def thenEdited (minutes : Int) : Nat -> Action
  | 0 => openHour
  | _ => .editOpenSlot (.minted 0 0) ⟨none, some (.integer minutes), none⟩

def repriced : Nat -> Action
  | 0 => openHour
  | _ => priced 3 200000

def standingHour : Db :=
  { setTariff hourTariff (.seeded 4) ⟨some (.seeded 7), 90, 150000, true, false, false⟩ with
    slots := [openSlot (.seeded 5) (.seeded 7) (5 * 3600000) 60 (some (.seeded 3)) 0] }

/-- An hour is opened and edited to an hour; the price of the other tariff is changed, and that
of the first is not. -/
def standingRequests : Nat -> Action
  | 0 => openHour
  | 1 => priced 4 200000
  | 2 => .editOpenSlot (.minted 0 0) ⟨none, some (.integer 60), none⟩
  | _ => priced 3 300000

/-- A commit that changes no duration, writes slots of tariffs that have slots already, and
edits no slot to another duration than its tariff's. -/
def calm (actions : Nat -> Action) (state : State)
    (event : ReadCommitted.Event Drift GatewayAnswer) : Bool :=
  (state.committing event).all fun session =>
    ((state.sessions session).pending.all fun write =>
      match write with
      | .tariff id tariff => (state.db.catalog.tariff id).all fun old =>
          tariff.durationMinutes = old.durationMinutes
      | .lesson (.slot change) => change.row.tariffId.all fun id => referenced state.db id
      | .lesson _ => true) &&
    match actions session with
    | .editOpenSlot slotId patch =>
      match patch.durationMinutes with
      | some (.integer minutes) => state.db.slots.all fun slot => slot.id ≠ slotId ||
          slot.tariffId.all fun id => (state.db.catalog.tariff id).all fun tariff =>
            tariff.durationMinutes = minutes.toNat
      | _ => true
    | _ => true

theorem calm_sound (isTeacher : RowId -> Bool) (actions : Nat -> Action) (state : State)
    (event : ReadCommitted.Event Drift GatewayAnswer) (still : calm actions state event = true) :
    Undisturbed isTeacher actions state event := by
  have quiet (session : Nat) (commits : state.committing event = some session) :=
    Bool.and_eq_true_iff.mp ((Option.all_eq_true _ _).mp still session commits)
  constructor
  · intro session commits id tariff old queued found differs
    have same := List.all_eq_true.mp (quiet session commits).1 _ queued
    simp only [found, Option.all_some, decide_eq_true_eq] at same
    exact absurd same differs
  · intro session commits row id queued named first
    have known : row.tariffId.all (fun id => referenced state.db id) = true := by
      rcases queued with insert | replace
      · exact List.all_eq_true.mp (quiet session commits).1 _ insert
      · exact List.all_eq_true.mp (quiet session commits).1 _ replace
    rw [named, Option.all_some, first] at known
    cases known
  · intro session commits _ slotId minutes sets slot listed key id named tariff found
    have fits := (quiet session commits).2
    cases action : actions session with
    | editOpenSlot own patch =>
      rw [action] at sets fits
      rcases sets with ⟨rfl, given⟩
      simp only [given] at fits
      have here := List.all_eq_true.mp fits slot listed
      simpa [key, named, found] using here
    | _ =>
      rw [action] at sets
      exact sets.elim

theorem hourTariff_consistent : Consistent hourTariff :=
  fun _ listed => absurd listed List.not_mem_nil

def hoursAt (count amountKopecks otherKopecks : Nat) (db : Db) : Bool :=
  db.slots.map LessonSlot.durationMinutes = List.replicate count 60 &&
    (db.catalog.tariff (.seeded 3)).map PricingTariff.amountKopecks = some amountKopecks &&
      (db.catalog.tariff (.seeded 4)).map PricingTariff.amountKopecks = some otherKopecks

/-- The hour is opened while the other price changes; then it is edited to an hour, and its own
price is refused. -/
theorem tariff_terms_kept_hour : ∃ middle last,
      ReachesWhen store (Undisturbed (fun _ => true) standingRequests)
        (opening (fun _ => true) standingHour standingRequests) middle ∧
      ReachesWhen store (Undisturbed (fun _ => true) standingRequests) middle last ∧
      hoursAt 2 100000 200000 middle.db = true ∧ hoursAt 2 100000 200000 last.db = true ∧
      Consistent last.db ∧ Frozen middle.db last.db := by
  let second : List (ReadCommitted.Event Drift GatewayAnswer) :=
    Event.steps 2 5 (.unsent "") ++ Event.steps 3 2 (.unsent "")
  rcases exists_of_playWhen store (calm_sound (fun _ => true) standingRequests)
    (Event.steps 0 4 (.unsent "") ++ Event.steps 1 3 (.unsent "") ++
      Event.steps 0 4 (.unsent ""))
    (fun middle => hoursAt 2 100000 200000 middle.db &&
      (playWhen store (calm standingRequests) middle second).any fun last =>
        hoursAt 2 100000 200000 last.db)
    (.refl (opening (fun _ => true) standingHour standingRequests)) (by decide +kernel) with
    ⟨middle, before, both⟩
  rcases Bool.and_eq_true_iff.mp both with ⟨opened, rest⟩
  rcases exists_of_playWhen store (calm_sound (fun _ => true) standingRequests) second
    (fun last => hoursAt 2 100000 200000 last.db) (.refl middle) rest with ⟨last, reached, kept⟩
  have consistent : Consistent standingHour := by decide +kernel
  have unique : Tables.Unique LessonSlot.id standingHour.slots := List.nodup_singleton _
  exact ⟨middle, last, before, reached, opened, kept,
    tariff_terms_kept consistent unique before reached⟩

/-- The edit writes ninety minutes into a slot whose tariff is an hour.  And an update whose
trigger has found no slot commits after one has been inserted. -/
theorem tariff_terms_lost :
    (¬ ∀ (isTeacher : RowId -> Bool) (db : Db) (actions : Nat -> Action) (last : State),
      Consistent db -> Reaches store (fun _ _ => True) (opening isTeacher db actions) last ->
        Consistent last.db) ∧ ¬ ∀ (isTeacher : RowId -> Bool) (db : Db) (actions : Nat -> Action)
        (middle last : State),
      Consistent db -> Reaches store (fun _ _ => True) (opening isTeacher db actions) middle ->
        Reaches store (fun _ _ => True) middle last -> Frozen middle.db last.db := by
  constructor
  · intro claimed
    rcases exists_of_play store (opening (fun _ => true) hourTariff (thenEdited 90))
      (Event.steps 0 8 (.unsent "") ++ Event.steps 1 5 (.unsent ""))
      (fun db => ¬ Consistent db) (by decide +kernel) with ⟨last, reached, unsuited⟩
    exact unsuited (claimed (fun _ => true) hourTariff (thenEdited 90) last hourTariff_consistent
      reached)
  · intro claimed
    have raced : ((play store (opening (fun _ => true) hourTariff repriced)
        (Event.steps 1 2 (.unsent "") ++ Event.steps 0 8 (.unsent ""))).any fun middle =>
          (play store middle (Event.steps 1 1 (.unsent ""))).any fun last =>
            decide (¬ Frozen middle.db last.db)) = true := by
      decide +kernel
    rcases (Option.any_eq_true _ _).mp raced with ⟨middle, first, rest⟩
    rcases (Option.any_eq_true _ _).mp rest with ⟨last, second, changed⟩
    exact of_decide_eq_true changed (claimed (fun _ => true) hourTariff repriced middle last
      hourTariff_consistent (reaches_of_play store _ (.refl _) first)
      (reaches_of_play store _ (.refl _) second))

end LevelChannel.TariffFreeze
