import LevelChannel.Lessons.Timetable
import LevelChannel.Scheduling.SlotRows

namespace LevelChannel

open Tables ReadCommitted

/-!
# Lessons at the same time

The teacher opens slots, one at a time or many, and moves them; learners book them; lessons
are assigned and moved when they are booked already.  The one thing the table itself forbids
is that two slots of a teacher that are not cancelled start at the same instant.  Nothing
compares a slot with another that starts earlier and is not over yet, so a teacher can be
booked twice for the same minutes.

As long as the times that the requests ask for are apart, no lesson overlaps another.  That is
proved from what each route writes: the time it was asked for, or that of a slot it has found.
-/

namespace Program

/-- `assertTariffActive`, `assertTariffOwnedByTeacher` and `assertTariffDurationMatches`,
each with a query of its own. -/
def assertTariff (tariffId : Option RowId) (teacherAccountId : RowId) (durationMinutes : Nat)
    (next : Program) : Program :=
  match tariffId with
  | none => next
  | some tariffId =>
    query thrown fun committed _ =>
      match committed.catalog.tariff tariffId with
      | none => .done (.thrown "slot/tariffId/unknown")
      | some tariff =>
        if tariff.isDeleted then .done (.thrown "slot/tariffId/archived")
        else
          query thrown fun committed _ =>
            match committed.catalog.tariff tariffId with
            | none => .done (.thrown "slot/tariffId/unknown")
            | some tariff =>
              if tariff.teacherId ≠ some teacherAccountId then
                .done (.thrown "slot/tariffId/wrong_teacher")
              else
                query thrown fun committed _ =>
                  match committed.catalog.tariff tariffId with
                  | none => .done (.thrown "slot/tariffId/unknown")
                  | some tariff =>
                    if tariff.durationMinutes ≠ durationMinutes then
                      .done (.thrown ("slot/tariffId/duration_mismatch: " ++
                        s!"slot={durationMinutes}m tariff={tariff.durationMinutes}m"))
                    else next

def assertTeacherRole (isTeacher : RowId -> Bool) (teacherAccountId : RowId) (next : Program) :
    Program :=
  query thrown fun _ _ =>
    if isTeacher teacherAccountId then next else .done (.thrown "SlotTeacherRoleError")

def startTaken (own : Db) (row : LessonSlot) : Bool :=
  (own.slot? row.id).isSome || own.slots.any (fun other => other.id ≠ row.id &&
    other.status ≠ .cancelled && other.teacherAccountId = row.teacherAccountId &&
      other.startAt = row.startAt)

def createSlot (isTeacher : RowId -> Bool) (session : Nat) (input : CreateSlot) : Program :=
  dateNow thrown fun nowMs =>
    match validateSlotInput nowMs ⟨some input.startAt, some input.durationMinutes, input.notes⟩,
      input.startAt, input.durationMinutes with
    | some (field, reason), _, _ => .done (.thrown ("slot/" ++ field ++ "/" ++ reason))
    | none, some startAt, .integer minutes =>
      assertTariff input.tariffId input.teacherAccountId minutes.toNat
        (assertTeacherRole isTeacher input.teacherAccountId
          (begin thrown fun now =>
            let row := openSlot (.minted session 0) input.teacherAccountId startAt minutes.toNat
              input.tariffId now
            checkedOr
              [(LockTarget.slot row.id).forUpdate,
                (LockTarget.slotStart row.teacherAccountId row.startAt).forUpdate]
              thrown (fun code => .done (.thrown code))
              (fun own =>
                if row.checks = false then some "23514"
                else if startTaken own row then some "23505"
                else none)
              (fun own => [.slot (.insert (row.snapshotOnBook own.catalog))])
              fun _ => .commit thrown (.done (.returned "slot" [row.id]))))
    | none, _, _ => .done (.thrown "slot/startAt/invalid")

/-- The inserts of a batch: `on conflict do nothing`, and any other violation ends the
batch. -/
def insertSlots (row : Nat -> Nat -> LessonSlot) : Nat -> List Nat -> Program
  | _, [] => .commit thrown (.done (.returned "created" []))
  | index, startAt :: rest =>
    checkedOr
      [(LockTarget.slot (row index startAt).id).forUpdate,
        (LockTarget.slotStart (row index startAt).teacherAccountId startAt).forUpdate]
      thrown (fun code => .done (.thrown code))
      (fun _ => if (row index startAt).checks = false then some "23514" else none)
      (fun own =>
        if startTaken own (row index startAt) then []
        else [.slot (.insert ((row index startAt).snapshotOnBook own.catalog))])
      fun _ => insertSlots row (index + 1) rest

def bulkCreateSlots (isTeacher : RowId -> Bool) (session : Nat) (input : BulkCreate) : Program :=
  dateNow thrown fun nowMs =>
    match validateSlotInput nowMs ⟨none, some input.durationMinutes, input.notes⟩,
      input.durationMinutes with
    | some (field, reason), _ => .done (.thrown ("slot/" ++ field ++ "/" ++ reason))
    | none, .fractional => .done (.thrown "slot/durationMinutes/not_integer")
    | none, .integer minutes =>
      if input.slots.isEmpty then .done (.thrown "slot/slots/empty")
      else if 200 < input.slots.length then .done (.thrown "slot/slots/too_many")
      else
        match input.slots.findSome? fun slot =>
            validateSlotInput nowMs ⟨some slot.2, none, none⟩ with
        | some (field, reason) => .done (.thrown ("slot/" ++ field ++ "/" ++ reason))
        | none =>
          assertTariff input.tariffId input.teacherAccountId minutes.toNat
            (assertTeacherRole isTeacher input.teacherAccountId
              (begin thrown fun now =>
                insertSlots
                  (fun index startAt => openSlot (.minted session index) input.teacherAccountId
                    startAt minutes.toNat input.tariffId now)
                  0 (input.slots.filterMap Prod.snd)))

def sniffMove (slotId : RowId) (owner : Option RowId) : Program :=
  query thrown fun committed _ =>
    match committed.slot? slotId with
    | none => notOk "not_found"
    | some row =>
      if owner.any fun teacherAccountId => row.teacherAccountId ≠ teacherAccountId then
        notOk "not_owner"
      else notOk "not_open"

def refusing (refusal : Option SlotStartError) (next : Program) : Program :=
  match refusal with
  | some error => .done (.refused 400 error.code error.message)
  | none => next

/-- The routes of `moveOpenSlot`, for an operator, and of `moveOpenSlotByTeacher`, for a
teacher, who may only move a slot of their own. -/
def moveOpenSlot (slotId : RowId) (newStartAt : Nat) (owner : Option RowId) : Program :=
  refusing (validateSlotStartMsk newStartAt)
    (begin thrown fun now =>
      let update (own : Db) := own.slotUpdate slotId
        (fun row => row.status = .open && owner.all fun teacherAccountId =>
          row.teacherAccountId = teacherAccountId)
        fun row => row.movedTo newStartAt now
      query thrown fun _ own =>
        match update own with
        | none => sniffMove slotId owner
        | some (old, _) =>
          checkedOr
            [(LockTarget.slot slotId).forNoKeyUpdate,
              (LockTarget.slotStart old.teacherAccountId newStartAt).forUpdate]
            thrown
            (fun code => if code = "23505" then notOk "slot_collision" else .done (.thrown code))
            (fun own => (update own).bind fun versions =>
              if versions.2.checks = false then some "23514"
              else if own.slots.any (fun other => other.id ≠ slotId &&
                  other.status ≠ .cancelled &&
                  other.teacherAccountId = versions.2.teacherAccountId &&
                  other.startAt = newStartAt) then some "23505"
              else none)
            (fun own => slotUpdateWrites (update own))
            fun own =>
              if (update own).isSome then .commit thrown (notOk "ok")
              else .commit thrown (sniffMove slotId owner))

end Program

namespace Scheduling

/-- Whatever gives a slot its time, takes it or lets it go. -/
inductive SlotAction where
  | createSlot (input : CreateSlot)
  | bulkCreateSlots (input : BulkCreate)
  | moveOpenSlot (slotId : RowId) (newStartAt : Nat) (owner : Option RowId)
  | bookSlot (input : Program.BookSlot)
  | assignSlotDirect (input : Program.AssignSlotDirect)
  | rescheduleSlotByLearner (slotId learnerAccountId : RowId) (newStartAt : Option Nat)
      (cancelWindowHours : Nat)
  | rescheduleSlotByTeacher (slotId teacherAccountId : RowId) (newStartAt : Option Nat)
      (reason : Option String)
  | cancelSlot (slotId cancelledByAccountId : RowId) (reason : Option String) (actor : Actor)
  | cancelLearnerSlot (slotId learnerAccountId : RowId) (reason : Option String)
      (envFallbackMinutes : Nat)
  | cancelSlotByTeacher (slotId teacherAccountId : RowId) (reason : Option String)

def SlotAction.program (isTeacher : RowId -> Bool) (session : Nat) : SlotAction -> Program
  | .createSlot input => .createSlot isTeacher session input
  | .bulkCreateSlots input => .bulkCreateSlots isTeacher session input
  | .moveOpenSlot slotId newStartAt owner => .moveOpenSlot slotId newStartAt owner
  | .bookSlot input => .bookSlot input
  | .assignSlotDirect input => .assignSlotDirect session input
  | .rescheduleSlotByLearner slotId learnerAccountId newStartAt cancelWindowHours =>
    .rescheduleSlotByLearner session slotId learnerAccountId newStartAt cancelWindowHours
  | .rescheduleSlotByTeacher slotId teacherAccountId newStartAt reason =>
    .rescheduleSlotByTeacher session slotId teacherAccountId newStartAt reason
  | .cancelSlot slotId cancelledByAccountId reason actor =>
    .cancelSlot slotId cancelledByAccountId reason actor
  | .cancelLearnerSlot slotId learnerAccountId reason envFallbackMinutes =>
    .cancelLearnerSlot slotId learnerAccountId reason envFallbackMinutes
  | .cancelSlotByTeacher slotId teacherAccountId reason =>
    .cancelSlotByTeacher slotId teacherAccountId reason

def slotOpening (isTeacher : RowId -> Bool) (db : Db) (actions : Nat -> SlotAction) : State :=
  State.start db fun session => (actions session).program isTeacher session

/-! ## What is written when a slot is opened or moved -/

section Upholds

variable {Known : Type} {upkeep : Upkeep Db Write Known} {session : Nat}

/-- What holds once a tariff has been looked at, if there is one to look at. -/
def Told (upkeep : Upkeep Db Write Known) (session : Nat) (tariffId : Option RowId)
    (teacherAccountId : RowId) (durationMinutes : Nat) (goal : Known -> Prop) : Prop :=
  (tariffId = none -> goal upkeep.nothing) ∧
    ∀ id, tariffId = some id -> ∀ db own tariff,
      upkeep.View store session upkeep.nothing db own -> db.catalog.tariff id = some tariff ->
      tariff.teacherId = some teacherAccountId ->
        ∃ learned, upkeep.knows session learned db ∧ ∀ db own tariff,
          upkeep.View store session learned db own -> db.catalog.tariff id = some tariff ->
          tariff.durationMinutes = durationMinutes ->
            ∃ more, upkeep.knows session more db ∧ goal more

theorem Told.imp {tariffId : Option RowId} {teacherAccountId : RowId} {durationMinutes : Nat}
    {goal further : Known -> Prop}
    (told : Told upkeep session tariffId teacherAccountId durationMinutes goal)
    (onward : ∀ known, goal known -> further known) :
    Told upkeep session tariffId teacherAccountId durationMinutes further := by
  refine ⟨fun none => onward _ (told.1 none), fun id same db own tariff view found teacher => ?_⟩
  rcases told.2 id same db own tariff view found teacher with ⟨learned, knows, later⟩
  refine ⟨learned, knows, fun db own tariff view found duration => ?_⟩
  rcases later db own tariff view found duration with ⟨more, knows, reached⟩
  exact ⟨more, knows, onward more reached⟩

theorem upholds_assertTariff {tariffId : Option RowId} {teacherAccountId : RowId}
    {durationMinutes : Nat} {next : Program}
    (told : Told upkeep session tariffId teacherAccountId durationMinutes fun known =>
      upkeep.Upholds store session known next) : upkeep.Upholds store session upkeep.nothing
      (Program.assertTariff tariffId teacherAccountId durationMinutes next) := by
  unfold Program.assertTariff
  split
  · exact told.1 rfl
  · next id =>
    refine upholds_query trivial fun _ _ _ => ?_
    split
    · trivial
    · split
      · trivial
      · refine ⟨trivial, fun db own view =>
          ⟨fun _ listed => absurd listed List.not_mem_nil, ?_⟩⟩
        beta_reduce
        split
        · exact ⟨upkeep.nothing, view.knows, trivial⟩
        · next tariff found =>
          split_ifs with teacher
          · exact ⟨upkeep.nothing, view.knows, trivial⟩
          · rcases told.2 id rfl db own tariff view found (not_not.mp teacher) with
              ⟨learned, knows, further⟩
            refine ⟨learned, knows, trivial, fun db own view =>
              ⟨fun _ listed => absurd listed List.not_mem_nil, ?_⟩⟩
            beta_reduce
            split
            · exact ⟨learned, view.knows, trivial⟩
            · next tariff found =>
              split_ifs with duration
              · exact ⟨learned, view.knows, trivial⟩
              · exact further db own tariff view found (not_not.mp duration)

def MayOpen (upkeep : Upkeep Db Write Known) (session : Nat) (known : Known)
    (row : Nat -> LessonSlot) : Prop :=
  ∀ db own now, upkeep.View store session known db own -> own.slot? (row now).id = none ->
    upkeep.may session db (.slot (.insert ((row now).snapshotOnBook own.catalog)))

theorem slot?_of_startTaken {own : Db} {row : LessonSlot}
    (free : Program.startTaken own row = false) : own.slot? row.id = none := by
  simp only [Program.startTaken, Bool.or_eq_false_iff, Option.isSome_eq_false_iff,
    Option.isNone_iff_eq_none] at free
  exact free.1

theorem upholds_createSlot (isTeacher : RowId -> Bool) (input : CreateSlot)
    (ready : ∀ startAt minutes, input.startAt = some startAt ->
      input.durationMinutes = .integer minutes ->
        Told upkeep session input.tariffId input.teacherAccountId minutes.toNat fun known =>
          MayOpen upkeep session known fun now => openSlot (.minted session 0)
            input.teacherAccountId startAt minutes.toNat input.tariffId now) :
    upkeep.Upholds store session upkeep.nothing (Program.createSlot isTeacher session input) := by
  refine upholds_query trivial fun _ _ _ => ?_
  dsimp only
  split
  · trivial
  · next startAt minutes _ given whole =>
    refine upholds_assertTariff ((ready startAt minutes given whole).imp fun known may => ?_)
    refine upholds_query trivial fun _ _ _ => ?_
    split
    · refine upholds_query trivial fun clock _ _ => upholds_checkedOr trivial (fun _ => trivial)
        (fun db own view passed write listed => ?_) fun _ => ⟨trivial, trivial⟩
      rw [List.mem_singleton.mp listed]
      refine may db own clock.clock view (slot?_of_startTaken ?_)
      split_ifs at passed with checks taken
      exact eq_false_of_ne_true taken
    · trivial
  · trivial

theorem upholds_insertSlots {known : Known} {row : Nat -> Nat -> LessonSlot}
    (starts : List Nat) (index : Nat) (ready : ∀ offset startAt, starts[offset]? = some startAt ->
      MayOpen upkeep session known fun _ => row (index + offset) startAt) :
    upkeep.Upholds store session known (Program.insertSlots row index starts) := by
  induction starts generalizing index with
  | nil => exact ⟨trivial, trivial⟩
  | cons startAt rest extend =>
    refine upholds_checkedOr trivial (fun _ => trivial)
      (fun db own view passed write listed => ?_)
      fun _ => extend (index + 1) fun offset startAt found => ?_
    · split_ifs at listed with taken
      · cases listed
      · rw [List.mem_singleton.mp listed]
        exact ready 0 startAt rfl db own 0 view (slot?_of_startTaken (eq_false_of_ne_true taken))
    · rw [Nat.add_assoc, Nat.add_comm 1 offset]
      exact ready (offset + 1) startAt found

theorem upholds_bulkCreateSlots (isTeacher : RowId -> Bool) (input : BulkCreate)
    (ready : ∀ minutes, input.durationMinutes = .integer minutes ->
      Told upkeep session input.tariffId input.teacherAccountId minutes.toNat fun known =>
        ∀ index startAt, (input.slots.filterMap Prod.snd)[index]? = some startAt ->
          MayOpen upkeep session known fun now => openSlot (.minted session index)
            input.teacherAccountId startAt minutes.toNat input.tariffId now) :
    upkeep.Upholds store session upkeep.nothing
      (Program.bulkCreateSlots isTeacher session input) := by
  unfold Program.bulkCreateSlots
  refine upholds_query trivial fun _ _ _ => ?_
  dsimp only
  split
  · trivial
  · trivial
  · next minutes _ whole =>
    split
    · trivial
    · split
      · trivial
      · split
        · trivial
        · refine upholds_assertTariff ((ready minutes whole).imp fun known may => ?_)
          refine upholds_query trivial fun _ _ _ => ?_
          split
          · refine upholds_query trivial fun clock _ _ => upholds_insertSlots _ 0 ?_
            intro offset startAt found db own _ view fresh
            rw [Nat.zero_add] at fresh ⊢
            exact may offset startAt found db own clock.clock view fresh
          · trivial

theorem upholds_sniffMove {known : Known} (slotId : RowId) (owner : Option RowId) :
    upkeep.Upholds store session known (Program.sniffMove slotId owner) := by
  refine upholds_query trivial fun _ _ _ => ?_
  split
  · trivial
  · split <;> trivial

theorem upholds_refusing {known : Known} (refusal : Option SlotStartError) {next : Program}
    (went : upkeep.Upholds store session known next) :
    upkeep.Upholds store session known (Program.refusing refusal next) := by
  cases refusal with
  | none => exact went
  | some error => trivial

theorem upholds_moveOpenSlot (slotId : RowId) (newStartAt : Nat) (owner : Option RowId)
    (ready : ∀ db own old now, upkeep.View store session upkeep.nothing db own ->
      old ∈ own.slots -> old.id = slotId -> old.status = .open ->
        upkeep.may session db (.slot (.replace
          ((old.movedTo newStartAt now).snapshotOnBook own.catalog)))) :
    upkeep.Upholds store session upkeep.nothing (Program.moveOpenSlot slotId newStartAt owner) := by
  refine upholds_refusing _ (upholds_query trivial fun clock _ _ => ?_)
  extract_lets
  refine upholds_query trivial fun _ _ _ => ?_
  split
  · exact upholds_sniffMove slotId owner
  · refine upholds_checkedOr trivial (fun message => ?_)
      (fun db own view _ write listed => ?_) fun own => ?_
    · split <;> trivial
    · rcases List.mem_map.mp listed with ⟨versions, made, rfl⟩
      rcases reached_of_slotUpdate (Option.mem_toList.mp made) with
        ⟨member, key, chosen, rewritten⟩
      simp only [Bool.and_eq_true, decide_eq_true_eq] at chosen
      rw [rewritten]
      exact ready db own versions.1 clock.clock view member key chosen.1
    · beta_reduce
      split
      · exact ⟨trivial, trivial⟩
      · exact ⟨trivial, upholds_sniffMove slotId owner⟩

end Upholds

section Occupied

variable (db : Db) (row other : LessonSlot)

/-- The slot takes its teacher's time: a booked lesson, or a personal event. -/
def Occupies : Prop :=
  row.status = .booked ∨ row.status = .personalEvent

/-- One is over before the other starts. -/
def Apart : Prop :=
  row.endAt ≤ other.startAt ∨ other.endAt ≤ row.startAt

/-- Another slot of the same teacher that takes time is over before this one starts, or
starts after it is over. -/
def FindsRoom : Prop :=
  Occupies row -> ∀ other, other ∈ db.slots -> other.id ≠ row.id ->
    other.teacherAccountId = row.teacherAccountId -> Occupies other -> Apart row other

/-- No teacher is booked twice for the same time. -/
def NoDoubleBooking : Prop :=
  ∀ row, row ∈ db.slots -> FindsRoom db row

instance : Decidable (Occupies row) :=
  inferInstanceAs (Decidable (_ ∨ _))

instance : Decidable (Apart row other) :=
  inferInstanceAs (Decidable (_ ∨ _))

instance : Decidable (FindsRoom db row) :=
  inferInstanceAs (Decidable (_ -> _))

instance : Decidable (NoDoubleBooking db) :=
  inferInstanceAs (Decidable (∀ row, row ∈ db.slots -> _))

end Occupied

structure Placement where
  slotId : RowId
  teacherAccountId : RowId
  startAt : Nat
  durationMinutes : Nat

def placementOf (row : LessonSlot) : Placement :=
  ⟨row.id, row.teacherAccountId, row.startAt, row.durationMinutes⟩

/-- One is over before the other starts. -/
def Placement.Apart (place other : Placement) : Prop :=
  place.startAt + place.durationMinutes * 60000 ≤ other.startAt ∨
    other.startAt + other.durationMinutes * 60000 ≤ place.startAt

/-- The times that stand at the start, those of the rows that come from outside, and those the
requests ask for.  A slot that is moved or rescheduled keeps its teacher and its length. -/
inductive Asked (db : Db) (actions : Nat -> SlotAction) (opened : LessonSlot -> Prop) :
    Placement -> Prop where
  | standing {row : LessonSlot} (listed : row ∈ db.slots) (live : row.status ≠ .cancelled) :
    Asked db actions opened (placementOf row)
  | opened {row : LessonSlot} (brought : opened row) :
    Asked db actions opened (placementOf row)
  | created {session : Nat} {input : CreateSlot} {startAt : Nat} {minutes : Int}
    (action : actions session = .createSlot input) (given : input.startAt = some startAt)
    (whole : input.durationMinutes = .integer minutes) : Asked db actions opened
      ⟨.minted session 0, input.teacherAccountId, startAt, minutes.toNat⟩
  | createdMany {session index : Nat} {input : BulkCreate} {startAt : Nat} {minutes : Int}
    (action : actions session = .bulkCreateSlots input)
    (given : (input.slots.filterMap Prod.snd)[index]? = some startAt)
    (whole : input.durationMinutes = .integer minutes) : Asked db actions opened
      ⟨.minted session index, input.teacherAccountId, startAt, minutes.toNat⟩
  | assigned {session : Nat} {input : Program.AssignSlotDirect} {startAt minutes : Nat}
    (action : actions session = .assignSlotDirect input) (given : input.startAt = some startAt)
    (whole : positiveInteger (some input.durationMinutes) = some minutes) :
    Asked db actions opened ⟨.minted session 0, input.teacherAccountId, startAt, minutes⟩
  | moved {place : Placement} {session newStartAt : Nat} {owner : Option RowId}
    (asked : Asked db actions opened place)
    (action : actions session = .moveOpenSlot place.slotId newStartAt owner) :
    Asked db actions opened { place with startAt := newStartAt }
  | movedByLearner {place : Placement} {session newStartAt cancelWindowHours : Nat}
    {learnerAccountId : RowId} (asked : Asked db actions opened place)
    (action : actions session = .rescheduleSlotByLearner place.slotId learnerAccountId
      (some newStartAt) cancelWindowHours) : Asked db actions opened
        { place with slotId := .minted session 0, startAt := newStartAt }
  | movedByTeacher {place : Placement} {session newStartAt : Nat} {teacherAccountId : RowId}
    {reason : Option String} (asked : Asked db actions opened place)
    (action : actions session = .rescheduleSlotByTeacher place.slotId teacherAccountId
      (some newStartAt) reason) : Asked db actions opened
        { place with slotId := .minted session 0, startAt := newStartAt }

def Disjoint (asked : Placement -> Prop) : Prop :=
  ∀ place other, asked place -> asked other -> other.slotId ≠ place.slotId ->
    other.teacherAccountId = place.teacherAccountId -> place.Apart other

def brings (opened : LessonSlot -> Prop) : Event -> Prop
  | .drift (.slot row) => opened row
  | _ => True

instance {opened : LessonSlot -> Prop} [DecidablePred opened] (event : Event) :
    Decidable (brings opened event) := by
  unfold brings
  split <;> infer_instance

/-! ## Runs -/

section Kept

variable {db : Db} {actions : Nat -> SlotAction} {opened : LessonSlot -> Prop}

def AsPlanned (asked : Placement -> Prop) (row : LessonSlot) : Prop :=
  row.status = .cancelled ∨ asked (placementOf row)

def placing (asked : Placement -> Prop) : Upkeep Db Write Unit where
  good db := ∀ row, row ∈ db.slots -> AsPlanned asked row
  moves _ _ := True
  knows _ _ _ := True
  may _ _ write := ∀ row, write = .slot (.insert row) ∨ write = .slot (.replace row) ->
    AsPlanned asked row
  nothing := ()
  stays _ := trivial
  knows_nothing _ _ := trivial

variable {asked : Placement -> Prop} {session : Nat} {known : Unit}

theorem AsPlanned.revised {old new : LessonSlot} (placed : AsPlanned asked old)
    (revision : Revision old new) : AsPlanned asked new := by
  rcases placed with cancelled | asking
  · exact Or.inl (revision.live.resolve_right fun live => live cancelled)
  · right
    rw [placementOf, revision.id, revision.teacherAccountId, revision.startAt,
      revision.durationMinutes]
    exact asking

theorem AsPlanned.snapshot {row : LessonSlot} (placed : AsPlanned asked row) (catalog : Catalog) :
    AsPlanned asked (row.snapshotOnBook catalog) := by
  rw [LessonSlot.snapshotOnBook]
  split
  · exact placed
  · exact placed

theorem may_insert {db : Db} {row : LessonSlot} (placed : AsPlanned asked row) :
    (placing asked).may session db (.slot (.insert row)) := by
  rintro other (same | same) <;> cases same
  exact placed

theorem may_replace {db : Db} {row : LessonSlot} (placed : AsPlanned asked row) :
    (placing asked).may session db (.slot (.replace row)) := by
  rintro other (same | same) <;> cases same
  exact placed

theorem asPlanned_of_writes {db : Db} {writes : List Write} (good : (placing asked).good db)
    (allowed : ∀ write, write ∈ writes -> (placing asked).may session db write) :
    (placing asked).good (store.applyAll db writes) := by
  intro row listed
  rcases mem_slots_applyAll listed with before | ⟨write, member, wrote⟩
  · exact good row before
  · exact allowed write member row wrote

theorem asPlanned_of_view {db own : Db} (view : (placing asked).View store session known db own)
    {row : LessonSlot} (listed : row ∈ own.slots) : AsPlanned asked row := by
  rcases view.queued with ⟨pending, allowed, rfl⟩
  exact asPlanned_of_writes view.good allowed row listed

theorem lenient_placing : Lenient (placing asked) session where
  quiet table row := by
    rintro (rfl | rfl) <;> exact absurd rfl table
  revised view listed revision := may_replace ((asPlanned_of_view view listed).revised revision)

theorem steady_placing : (placing (Asked db actions opened)).Steady store
      fun (_ : State) event => brings opened event where
  commit state event session _ upheld _ queued :=
    ⟨asPlanned_of_writes upheld.1 queued, trivial, fun other _ => upheld.2 other⟩
  close state session upheld := ⟨upheld.1, trivial, fun other _ => upheld.2 other⟩
  drift state change met upheld := by
    refine ⟨fun row listed => ?_, trivial, fun other _ => upheld.2 other⟩
    cases change with
    | slot brought =>
      rw [store_drift, Db.drift] at listed
      split at listed
      · rcases List.mem_append.mp listed with before | new
        · exact upheld.1 row before
        · exact Or.inr (List.mem_singleton.mp new ▸ .opened met)
      · exact upheld.1 row listed
    | allocation allocated =>
      rw [store_drift, Db.drift, Db.allocate] at listed
      split at listed <;> exact upheld.1 row listed
    | _ => exact upheld.1 row listed

theorem told_placing {tariffId : Option RowId} {teacherAccountId : RowId}
    {durationMinutes : Nat} {goal : Unit -> Prop} (reached : goal ()) :
    Told (placing asked) session tariffId teacherAccountId durationMinutes goal :=
  ⟨fun _ => reached, fun _ _ _ _ _ _ _ _ =>
    ⟨(), trivial, fun _ _ _ _ _ _ => ⟨(), trivial, reached⟩⟩⟩

theorem mayOpen_placing {row : Nat -> LessonSlot} (asking : ∀ now, asked (placementOf (row now))) :
    MayOpen (placing asked) session known row :=
  fun _ _ now _ _ => may_insert (AsPlanned.snapshot (Or.inr (asking now)) _)

theorem movable_placing {slotId : RowId} {newStartAt : Nat}
    (asking : ∀ place, asked place -> place.slotId = slotId ->
      asked { place with slotId := .minted session 0, startAt := newStartAt }) :
    Movable (placing asked) session slotId newStartAt := by
  intro known db own old view member key live
  have placed := (asPlanned_of_view view member).resolve_left live
  exact ⟨(), trivial, fun db own learnerAccountId now _ _ =>
    may_insert (AsPlanned.snapshot (Or.inr (asking _ placed key)) _)⟩

attribute [local irreducible] Program.rescheduleSlotByTeacher Program.moveOpenSlot in
theorem upholds_program (isTeacher : RowId -> Bool) (session : Nat) :
    (placing (Asked db actions opened)).Upholds store session ()
      ((actions session).program isTeacher session) := by
  cases action : actions session with
  | createSlot input =>
    dsimp only [SlotAction.program]
    exact upholds_createSlot isTeacher input fun startAt minutes given whole =>
      told_placing (mayOpen_placing fun _ => .created action given whole)
  | bulkCreateSlots input =>
    dsimp only [SlotAction.program]
    exact upholds_bulkCreateSlots isTeacher input fun minutes whole =>
      told_placing fun index startAt given =>
        mayOpen_placing fun _ => .createdMany action given whole
  | moveOpenSlot slotId newStartAt owner =>
    dsimp only [SlotAction.program]
    refine upholds_moveOpenSlot slotId newStartAt owner fun db own old now view member key live =>
      may_replace (AsPlanned.snapshot ?_ _)
    have placed := (asPlanned_of_view view member).resolve_left (by simp [live])
    exact Or.inr (.moved placed (key ▸ action))
  | bookSlot input => exact upholds_bookSlot lenient_placing input
  | assignSlotDirect input =>
    dsimp only [SlotAction.program]
    refine upholds_assignSlotDirect lenient_placing input ?_
    intro now startAt minutes given whole db own tariff view found teacher duration
    exact ⟨(), trivial, fun db own view fresh =>
      may_insert (AsPlanned.snapshot (Or.inr (.assigned action given whole)) _)⟩
  | rescheduleSlotByLearner slotId learnerAccountId newStartAt cancelWindowHours =>
    dsimp only [SlotAction.program]
    refine upholds_rescheduleSlotByLearner lenient_placing _ _ _ _ fun startAt given =>
      movable_placing fun place placed key => ?_
    subst given key
    exact .movedByLearner placed action
  | rescheduleSlotByTeacher slotId teacherAccountId newStartAt reason =>
    dsimp only [SlotAction.program]
    refine upholds_rescheduleSlotByTeacher lenient_placing _ _ _ _ fun startAt given =>
      movable_placing fun place placed key => ?_
    subst given key
    exact .movedByTeacher placed action
  | cancelSlot slotId cancelledByAccountId reason actor =>
    dsimp only [SlotAction.program]
    exact upholds_cancelSlot lenient_placing slotId cancelledByAccountId reason actor
  | cancelLearnerSlot slotId learnerAccountId reason envFallbackMinutes =>
    dsimp only [SlotAction.program]
    exact upholds_cancelLearnerSlot lenient_placing slotId learnerAccountId reason
      envFallbackMinutes
  | cancelSlotByTeacher slotId teacherAccountId reason =>
    dsimp only [SlotAction.program]
    exact upholds_cancelSlotByTeacher lenient_placing slotId teacherAccountId reason

theorem noDoubleBooking_of_asPlanned {db : Db} (disjoint : Disjoint asked)
    (placed : (placing asked).good db) : NoDoubleBooking db := by
  have asking {row : LessonSlot} (listed : row ∈ db.slots) (occupies : Occupies row) :
      asked (placementOf row) := by
    refine (placed row listed).resolve_left fun cancelled => ?_
    rw [Occupies, cancelled] at occupies
    rcases occupies with booked | personal
    · cases booked
    · cases personal
  intro row listed occupies other member distinct teacher taking
  exact disjoint _ _ (asking listed occupies) (asking member taking) distinct teacher

theorem no_double_booking (isTeacher : RowId -> Bool) {last : State}
    (disjoint : Disjoint (Asked db actions opened))
    (reached : ReachesWhen store (fun _ event => brings opened event)
      (slotOpening isTeacher db actions) last) : NoDoubleBooking last.db := by
  have start : (placing (Asked db actions opened)).good db := fun row listed => by
    by_cases cancelled : row.status = .cancelled
    · exact Or.inl cancelled
    · exact Or.inr (.standing listed cancelled)
  have upheld := Upkeep.upheld_start start fun session => upholds_program isTeacher session
  have kept := upheld.reaches steady_placing (fun _ _ => trivial) reached
  exact noDoubleBooking_of_asPlanned disjoint kept.1.1

end Kept

/-- A teacher opens an hour at ten and another at this minute of the same hour, Moscow time,
and each is booked by a learner of its own. -/
def twoHours (minute : Nat) : Nat -> SlotAction
  | 0 => .createSlot ⟨.seeded 7, some (7 * 3600000), .integer 60, none, none⟩
  | 1 => .createSlot ⟨.seeded 7, some (7 * 3600000 + minute * 60000), .integer 60, none, none⟩
  | 2 => .bookSlot ⟨false, .minted 0 0, .seeded 1, .learner, some (.seeded 7)⟩
  | _ => .bookSlot ⟨false, .minted 1 0, .seeded 2, .learner, some (.seeded 7)⟩

def twoHoursEvents : List Event :=
  Event.steps 0 5 (.unsent "") ++ Event.steps 1 5 (.unsent "") ++ Event.steps 2 4 (.unsent "") ++
    Event.steps 3 4 (.unsent "")

def bothBooked (db : Db) : Prop :=
  db.slots.map LessonSlot.status = [.booked, .booked]

instance : DecidablePred bothBooked :=
  fun db => inferInstanceAs (Decidable (db.slots.map LessonSlot.status = _))

theorem asked_of_twoHours {place : Placement}
    (asked : Asked Db.empty (twoHours 60) (fun _ => False) place) :
    place = ⟨.minted 0 0, .seeded 7, 7 * 3600000, 60⟩ ∨
      place = ⟨.minted 1 0, .seeded 7, 8 * 3600000, 60⟩ := by
  have hours (session : Nat) :
      session = 0 ∧ twoHours 60 session =
          .createSlot ⟨.seeded 7, some (7 * 3600000), .integer 60, none, none⟩ ∨
        session = 1 ∧ twoHours 60 session =
          .createSlot ⟨.seeded 7, some (8 * 3600000), .integer 60, none, none⟩ ∨
        ∃ input, twoHours 60 session = .bookSlot input := by
    rcases session with _ | _ | _ | session
    · exact Or.inl ⟨rfl, rfl⟩
    · exact Or.inr (Or.inl ⟨rfl, rfl⟩)
    · exact Or.inr (Or.inr ⟨_, rfl⟩)
    · exact Or.inr (Or.inr ⟨_, rfl⟩)
  cases asked with
  | standing listed live => cases listed
  | opened brought => exact brought.elim
  | @created session input startAt minutes action given whole =>
    rcases hours session with ⟨rfl, hour⟩ | ⟨rfl, hour⟩ | ⟨input, booking⟩
    · rw [hour] at action
      cases action
      cases given
      cases whole
      exact Or.inl rfl
    · rw [hour] at action
      cases action
      cases given
      cases whole
      exact Or.inr rfl
    · rw [booking] at action
      cases action
  | @createdMany session _ _ _ _ action _ _ | @assigned session _ _ _ action _ _
  | @moved _ session _ _ _ action | @movedByLearner _ session _ _ _ _ action
  | @movedByTeacher _ session _ _ _ _ action =>
    rcases hours session with ⟨-, other⟩ | ⟨-, other⟩ | ⟨input, other⟩ <;>
      rw [other] at action <;> cases action

theorem no_double_booking_later :
    ∃ last, ReachesWhen store (fun _ event => brings (fun _ => False) event)
        (slotOpening (fun _ => true) Db.empty (twoHours 60)) last ∧
      bothBooked last.db ∧ NoDoubleBooking last.db := by
  have disjoint : Disjoint (Asked Db.empty (twoHours 60) fun _ => False) := by
    intro place other asked askedOther distinct _
    rcases asked_of_twoHours asked with rfl | rfl
    · rcases asked_of_twoHours askedOther with rfl | rfl
      · exact absurd rfl distinct
      · exact Or.inl (by decide)
    · rcases asked_of_twoHours askedOther with rfl | rfl
      · exact Or.inr (by decide)
      · exact absurd rfl distinct
  rcases exists_of_playWhen store
    (fun (_ : State) event (fine : decide (brings (fun _ => False) event) = true) =>
      of_decide_eq_true fine) twoHoursEvents
    (fun last => decide (bothBooked last.db))
    (.refl (slotOpening (fun _ => true) Db.empty (twoHours 60))) (by decide +kernel) with
    ⟨last, reached, booked⟩
  exact ⟨last, reached, of_decide_eq_true booked,
    no_double_booking (fun _ => true) disjoint reached⟩

theorem teacher_booked_twice :
    ¬ ∀ (isTeacher : RowId -> Bool) (db : Db) (actions : Nat -> SlotAction) (last : State),
      NoDoubleBooking db ->
      Reaches store (fun _ _ => True) (slotOpening isTeacher db actions) last ->
        NoDoubleBooking last.db := by
  intro claimed
  have start : NoDoubleBooking Db.empty := fun _ listed => absurd listed List.not_mem_nil
  rcases exists_of_play store (slotOpening (fun _ => true) Db.empty (twoHours 30)) twoHoursEvents
    (fun db => ¬ NoDoubleBooking db) (by decide +kernel) with ⟨last, reached, twice⟩
  exact twice (claimed (fun _ => true) Db.empty (twoHours 30) last start reached)

end Scheduling
end LevelChannel
