import LevelChannel.Lessons.Moves

namespace LevelChannel

open ReadCommitted Tables

/-!
# How a lesson is billed

A learner books an open slot, or the teacher assigns a slot of the same kind at once.  Both take a
unit of the package that expires first, and leave the lesson to be paid for later if there is none.
A booking first asks whether teacher and learner have agreed on a way to pay; an assignment only
asks when there is no package to take from.
-/

namespace LessonBilling

inductive Billing where
  | prepaid (purchaseId : RowId)
  | postpaid
  | unbilled
  | refused
  | failed
  deriving DecidableEq

def billingOf : Reply -> Billing
  | .returned "prepaid" [_, purchaseId] => .prepaid purchaseId
  | .returned "postpaid" _ => .postpaid
  | .returned "legacy" _ => .unbilled
  | .returned _ _ => .refused
  | _ => .failed

def outcome (answer : GatewayAnswer) (program : Program) (db : Db) : Option Billing :=
  (program.alone store answer db []).2.map billingOf

structure Lesson where
  slot : LessonSlot
  tariffId : RowId
  learnerAccountId : RowId

def offered (db : Db) (lesson : Lesson) : Db :=
  { db with slots := db.slots ++ [lesson.slot] }

def booking (lesson : Lesson) (actor : Actor) (expectedTeacherId : Option RowId) :
    Program.BookSlot where
  billingActive := true
  slotId := lesson.slot.id
  learnerAccountId := lesson.learnerAccountId
  actor := actor
  expectedTeacherId := expectedTeacherId

def assignment (lesson : Lesson) (notes : Option String) : Program.AssignSlotDirect where
  teacherAccountId := lesson.slot.teacherAccountId
  learnerAccountId := .canonical lesson.learnerAccountId
  startAt := some lesson.slot.startAt
  durationMinutes := .integer lesson.slot.durationMinutes
  tariffId := lesson.tariffId
  notes := notes
  billingChoice := .auto
  packagePurchaseId := none

/-- The tables, an open slot of the tariff that is not there yet, and a key that is still free. -/
structure Fresh (db : Db) (lesson : Lesson) (session : Nat) : Prop where
  tables : PackageTables db
  open_ : lesson.slot.status = .open
  priced : lesson.slot.tariffId = some lesson.tariffId
  absent : db.slot? lesson.slot.id = none
  free : db.slot? (.minted session 0) = none

/-- The slot can be reserved, and its tariff is not hidden from the learner. -/
def bookingGates (db : Db) (lesson : Lesson) (expectedTeacherId : Option RowId) : Bool :=
  Program.bookable db.clock (booking lesson .learner expectedTeacherId) db lesson.slot &&
    !Program.privateNoAccess db lesson.slot lesson.learnerAccountId

def assignedSlot (db : Db) (lesson : Lesson) (session : Nat) : LessonSlot :=
  Program.bookedSlot (.minted session 0) lesson.slot.teacherAccountId lesson.learnerAccountId
    lesson.slot.startAt lesson.slot.durationMinutes (some lesson.tariffId) db.clock

/-- The request of an assignment is well formed, and its start is to come and within the band. -/
def requestGates (db : Db) (lesson : Lesson) (notes : Option String) : Bool :=
  decide (lesson.slot.teacherAccountId ≠ lesson.learnerAccountId) &&
    decide (30 ≤ lesson.slot.durationMinutes) &&
    !(notes.any fun notes => decide (notesMax < jsLength notes)) &&
    decide (db.clock < lesson.slot.startAt) && !outOfBand lesson.slot.startAt

/-- The learner is the teacher's, the tariff is active, the teacher's and of the duration, and
nothing is in the way. -/
def transactionGates (db : Db) (lesson : Lesson) (session : Nat) : Bool :=
  db.catalog.linked lesson.slot.teacherAccountId lesson.learnerAccountId &&
    (db.catalog.tariff lesson.tariffId).any (fun tariff =>
      !tariff.isDeleted && tariff.isActive &&
        decide (tariff.teacherId = some lesson.slot.teacherAccountId) &&
        decide (tariff.durationMinutes = lesson.slot.durationMinutes)) &&
    !db.catalog.busy lesson.slot.teacherAccountId lesson.slot.startAt
      lesson.slot.durationMinutes &&
    !collides db (assignedSlot db lesson session)

def assignmentGates (db : Db) (lesson : Lesson) (notes : Option String) (session : Nat) : Bool :=
  requestGates db lesson notes && transactionGates db lesson session

/-! ## The billing -/

def method (db : Db) (lesson : Lesson) : PaymentMethod :=
  db.catalog.paymentMethod lesson.slot.teacherAccountId lesson.learnerAccountId

def package? (db : Db) (lesson : Lesson) : Option RowId :=
  (db.eligiblePackages db.clock lesson.learnerAccountId lesson.slot.durationMinutes
    lesson.slot.teacherAccountId).head?

def packagePending (db : Db) (lesson : Lesson) : Bool :=
  db.accountHasPendingPackageGrantForDuration (.canonical lesson.learnerAccountId)
    lesson.slot.durationMinutes lesson.slot.teacherAccountId

def bookedBilling (db : Db) (lesson : Lesson) : Billing :=
  if method db lesson = .none then .refused
  else
    match package? db lesson with
    | some purchaseId => .prepaid purchaseId
    | none => if packagePending db lesson then .refused else .postpaid

def assignedBilling (db : Db) (lesson : Lesson) : Billing :=
  match package? db lesson with
  | some purchaseId => .prepaid purchaseId
  | none =>
    if packagePending db lesson then .refused
    else if method db lesson = .none then .refused else .postpaid

section Runs

variable {answer : GatewayAnswer} {db : Db} {lesson : Lesson} {session : Nat}

theorem alone_query {onError : Program} {pending : List Write} (next : Db -> Db -> Program) :
    (Program.query onError next).alone store answer db pending =
      (next db (store.applyAll db pending)).alone store answer db pending := by
  rw [Program.query, Program.alone, List.append_nil]

theorem alone_lockLearner {pending : List Write} (learnerAccountId : UuidText) (next : Program) :
    (Program.lockLearner learnerAccountId next).alone store answer db pending =
      next.alone store answer db pending := by
  rw [Program.lockLearner, Program.locking, Program.alone, List.append_nil]

theorem snapshotOnBook_columns (catalog : Catalog) (row : LessonSlot) :
    (row.snapshotOnBook catalog).teacherAccountId = row.teacherAccountId ∧
      (row.snapshotOnBook catalog).durationMinutes = row.durationMinutes ∧
        (row.snapshotOnBook catalog).tariffId = row.tariffId := by
  rw [LessonSlot.snapshotOnBook]
  split <;> exact ⟨rfl, rfl, rfl⟩

theorem no_consumption (tables : PackageTables db) {slotId : RowId}
    (absent : db.slot? slotId = none) : db.consumption? slotId = none := by
  rw [Db.consumption?, get_eq_none_iff]
  intro row member same
  have there := tables.slots row member
  rw [same, absent] at there
  cases there

theorem slot?_offered (fresh : Fresh db lesson session) :
    (offered db lesson).slot? lesson.slot.id = some lesson.slot :=
  get_insert_self lesson.slot fresh.absent

theorem outcome_classify (fresh : Fresh db lesson session) (input : Program.BookSlot)
    (this : input.slotId = lesson.slot.id) :
    ((Program.classifyBookSlotFailure input).alone store answer (offered db lesson) []).2.map
      billingOf = some .refused := by
  simp only [Program.classifyBookSlotFailure, Program.query, Program.dateNow, Program.notOk,
    Program.alone, this, slot?_offered fresh]
  split
  · rfl
  · split
    · rfl
    · simp only [Program.alone]
      split
      · rfl
      · simp only [Program.alone]
        split <;> rfl

def reservedSlot (db : Db) (lesson : Lesson) : LessonSlot :=
  LessonSlot.snapshotOnBook db.catalog
    { lesson.slot with
      status := .booked
      learnerAccountId := some lesson.learnerAccountId
      updatedAt := db.clock }

theorem reservedSlot_columns (fresh : Fresh db lesson session) :
    (reservedSlot db lesson).id = lesson.slot.id ∧
      (reservedSlot db lesson).teacherAccountId = lesson.slot.teacherAccountId ∧
        (reservedSlot db lesson).durationMinutes = lesson.slot.durationMinutes ∧
          (reservedSlot db lesson).tariffId = some lesson.tariffId := by
  have columns := snapshotOnBook_columns db.catalog
    { lesson.slot with
      status := .booked
      learnerAccountId := some lesson.learnerAccountId
      updatedAt := db.clock }
  exact ⟨LessonSlot.snapshotOnBook_id _ _, columns.1, columns.2.1, columns.2.2.trans fresh.priced⟩

def reserved (db : Db) (lesson : Lesson) : Db :=
  store.applyAll (offered db lesson) [.slot (.replace (reservedSlot db lesson))]

theorem reserved_there (fresh : Fresh db lesson session) :
    ((reserved db lesson).slot? lesson.slot.id).isSome = true := by
  have ⟨key, _⟩ := reservedSlot_columns fresh
  have there : get LessonSlot.id (offered db lesson).slots (reservedSlot db lesson).id =
      some lesson.slot := by
    rw [key]
    exact slot?_offered fresh
  have replaced : get LessonSlot.id ((Change.replace (reservedSlot db lesson)).apply LessonSlot.id
      (offered db lesson).slots) (reservedSlot db lesson).id = some (reservedSlot db lesson) :=
    get_replace_self _ there
  rw [key] at replaced
  exact Option.isSome_iff_exists.mpr ⟨_, replaced⟩

theorem outcome_billReservedSlot (fresh : Fresh db lesson session) (actor : Actor)
    (expectedTeacherId : Option RowId) :
    ((Program.billReservedSlot db.clock (booking lesson actor expectedTeacherId)
        (reservedSlot db lesson)).alone store answer (offered db lesson)
          [.slot (.replace (reservedSlot db lesson))]).2.map billingOf =
      some (if Program.privateNoAccess db lesson.slot lesson.learnerAccountId then .refused
        else bookedBilling db lesson) := by
  have ⟨key, teacher, duration, tariff⟩ := reservedSlot_columns fresh
  have hidden : Program.privateNoAccess (reserved db lesson) (reservedSlot db lesson)
      lesson.learnerAccountId =
      Program.privateNoAccess db lesson.slot lesson.learnerAccountId := by
    rw [Program.privateNoAccess, Program.privateNoAccess, tariff, fresh.priced]
    rfl
  have agreed : (reserved db lesson).catalog.paymentMethod
      (reservedSlot db lesson).teacherAccountId lesson.learnerAccountId = method db lesson := by
    rw [teacher]
    rfl
  simp only [Program.billReservedSlot, Program.query, Program.alone, List.append_nil]
  change Option.map billingOf (Program.alone store answer (if Program.privateNoAccess
    (reserved db lesson) (reservedSlot db lesson) lesson.learnerAccountId = true then _ else _)
      _ _).2 = _
  rw [hidden]
  cases Program.privateNoAccess db lesson.slot lesson.learnerAccountId with
  | true => rfl
  | false =>
    simp only [Bool.false_eq_true, if_false, Program.alone, List.append_nil]
    change Option.map billingOf (Program.alone store answer (if (reserved
      db lesson).catalog.paymentMethod (reservedSlot db lesson).teacherAccountId
        lesson.learnerAccountId = .none then _ else _) _ _).2 = _
    rw [agreed, bookedBilling]
    by_cases none_ : method db lesson = .none
    · rw [if_pos none_, if_pos none_]
      rfl
    · rw [if_neg none_, if_neg none_, key, duration, teacher]
      rw [alone_consume_head]
      · have packages : ((store.applyAll (offered db lesson)
            [.slot (.replace (reservedSlot db lesson))]).eligiblePackages db.clock
              (booking lesson actor expectedTeacherId).learnerAccountId lesson.slot.durationMinutes
                lesson.slot.teacherAccountId).head? = package? db lesson := rfl
        rw [packages]
        cases package? db lesson with
        | some purchaseId => rfl
        | none =>
          simp only [Program.alone]
          change Option.map billingOf (Program.alone store answer
            (if packagePending db lesson = true then _ else _) _ _).2 = _
          cases packagePending db lesson with
          | true => rfl
          | false =>
            simp only [Bool.false_eq_true, if_false, tariff]
            rfl
      · exact fresh.tables.purchases
      · exact no_consumption fresh.tables fresh.absent
      · exact reserved_there fresh

theorem outcome_bookSlot (fresh : Fresh db lesson session) (actor : Actor)
    (expectedTeacherId : Option RowId) :
    outcome answer (Program.bookSlot (booking lesson actor expectedTeacherId)) (offered db lesson) =
      some (if bookingGates db lesson expectedTeacherId then bookedBilling db lesson
        else .refused) := by
  have target : (booking lesson actor expectedTeacherId).slotId = lesson.slot.id := rfl
  have clock : (offered db lesson).clock = db.clock := rfl
  have update : (offered db lesson).slotUpdate (booking lesson actor expectedTeacherId).slotId
      (Program.bookable (offered db lesson).clock (booking lesson actor expectedTeacherId)
        (offered db lesson))
      (fun row => { row with
        status := .booked
        learnerAccountId := some (booking lesson actor expectedTeacherId).learnerAccountId
        updatedAt := (offered db lesson).clock }) =
      if Program.bookable db.clock (booking lesson .learner expectedTeacherId) db lesson.slot then
        some (lesson.slot, reservedSlot db lesson)
      else none := by
    rw [Db.slotUpdate, target, slot?_offered fresh, Option.filter_some]
    change Option.map _ (if Program.bookable db.clock (booking lesson .learner expectedTeacherId) db
      lesson.slot = true then _ else _) = _
    split <;> rfl
  have unchanged : lesson.slot.snapshotChanged (reservedSlot db lesson) = false := by
    rw [LessonSlot.snapshotChanged, fresh.open_]
    simp [SlotStatus.priced]
  have billed : ¬(booking lesson actor expectedTeacherId).billingActive = false := Bool.noConfusion
  rw [outcome, Program.bookSlot, Program.begin, alone_query, if_neg billed, alone_lockLearner,
    Program.reserveSlot]
  rw [alone_updateSlot, Store.applyAll_nil, update, bookingGates]
  cases Program.bookable db.clock (booking lesson .learner expectedTeacherId) db lesson.slot with
  | false => exact outcome_classify fresh _ rfl
  | true =>
    simp only [if_true, unchanged, Bool.false_eq_true, if_false, List.nil_append, Bool.true_and,
      clock]
    rw [outcome_billReservedSlot fresh]
    cases Program.privateNoAccess db lesson.slot lesson.learnerAccountId <;> rfl

theorem outcome_billAssignedSlot (fresh : Fresh db lesson session) (notes : Option String) :
    ((Program.billAssignedSlot db.clock (assignment lesson notes)
        ((assignedSlot db lesson session).snapshotOnBook db.catalog)).alone store answer db
          [.slot (.insert ((assignedSlot db lesson session).snapshotOnBook
            db.catalog))]).2.map billingOf = some (assignedBilling db lesson) := by
  have columns := snapshotOnBook_columns db.catalog (assignedSlot db lesson session)
  have key : ((assignedSlot db lesson session).snapshotOnBook db.catalog).id = .minted session 0 :=
    LessonSlot.snapshotOnBook_id _ _
  have duration : ((assignedSlot db lesson session).snapshotOnBook db.catalog).durationMinutes =
      lesson.slot.durationMinutes := columns.2.1
  have there : ((store.applyAll db [.slot (.insert ((assignedSlot db lesson
      session).snapshotOnBook db.catalog))]).slot? (.minted session 0)).isSome = true := by
    have inserted := get_insert_self ((assignedSlot db lesson session).snapshotOnBook db.catalog)
      (by rw [key]; exact fresh.free : get LessonSlot.id db.slots _ = none)
    rw [key] at inserted
    exact Option.isSome_iff_exists.mpr ⟨_, inserted⟩
  simp only [Program.billAssignedSlot, assignment, reduceCtorEq, if_false, key, duration]
  rw [alone_consume_head]
  · have packages : ((store.applyAll db [.slot (.insert ((assignedSlot db lesson
        session).snapshotOnBook db.catalog))]).eligiblePackages db.clock
          (UuidText.canonical lesson.learnerAccountId).id lesson.slot.durationMinutes
            lesson.slot.teacherAccountId).head? = package? db lesson := rfl
    rw [consumeWrites, packages, assignedBilling]
    cases package? db lesson with
    | some purchaseId => rfl
    | none =>
      simp only [Program.assignPostpaid, if_true, duration, Program.query, Program.alone,
        List.append_nil]
      change Option.map billingOf (Program.alone store answer
        (if packagePending db lesson = true then _ else _) _ _).2 = _
      cases packagePending db lesson with
      | true => rfl
      | false =>
        simp only [Bool.false_eq_true, if_false, Program.alone, List.append_nil]
        change Option.map billingOf (Program.alone store answer
          (if method db lesson = .none then _ else _) _ _).2 = _
        by_cases none_ : method db lesson = .none
        · rw [if_pos none_, if_pos none_]
          rfl
        · rw [if_neg none_, if_neg none_]
          rfl
  · exact fresh.tables.purchases
  · exact no_consumption fresh.tables fresh.free
  · exact there

theorem positiveInteger_filter (minutes : Nat) :
    ((positiveInteger (some (.integer minutes))).filter fun minutes => 30 ≤ minutes) =
      if 30 ≤ minutes then some minutes else none := by
  rw [positiveInteger]
  split
  · rw [Option.filter_some, Int.toNat_natCast]
    simp only [decide_eq_true_eq]
  · rw [if_neg (by omega)]
    rfl

theorem outcome_assignInTx (fresh : Fresh db lesson session) (notes : Option String) :
    ((Program.assignInTx session db.clock (assignment lesson notes) lesson.slot.startAt
        lesson.slot.durationMinutes).alone store answer db []).2.map billingOf =
      some (if transactionGates db lesson session then assignedBilling db lesson
        else .refused) := by
  rw [transactionGates]
  change Option.map billingOf (Program.alone store answer (if db.catalog.linked
    lesson.slot.teacherAccountId lesson.learnerAccountId = false then _ else _) db []).2 = _
  cases db.catalog.linked lesson.slot.teacherAccountId lesson.learnerAccountId with
  | false => rfl
  | true =>
    simp only [Bool.true_eq_false, if_false, Bool.true_and]
    have tariffId : (assignment lesson notes).tariffId = lesson.tariffId := rfl
    rw [alone_query, tariffId, Store.applyAll_nil]
    cases db.catalog.tariff lesson.tariffId with
    | none => rfl
    | some tariff =>
      rw [Option.filter_some, Option.any_some]
      cases active : !tariff.isDeleted && tariff.isActive with
      | false => rfl
      | true =>
        have teacher : (assignment lesson notes).teacherAccountId =
            lesson.slot.teacherAccountId := rfl
        simp only [if_true, Bool.true_and, teacher, ne_eq]
        by_cases owned : tariff.teacherId = some lesson.slot.teacherAccountId
        · rw [if_neg (not_not.mpr owned), decide_eq_true owned]
          by_cases long : tariff.durationMinutes = lesson.slot.durationMinutes
          · rw [if_neg (not_not.mpr long), decide_eq_true long]
            change Option.map billingOf (Program.alone store answer (if db.catalog.busy
              lesson.slot.teacherAccountId lesson.slot.startAt lesson.slot.durationMinutes = true
                then _ else Program.insertBookedSlot (assignedSlot db lesson session) _)
                  db []).2 = _
            cases db.catalog.busy lesson.slot.teacherAccountId lesson.slot.startAt
                lesson.slot.durationMinutes with
            | true => rfl
            | false =>
              simp only [Bool.false_eq_true, if_false]
              rw [alone_insertBookedSlot, Store.applyAll_nil]
              cases collides db (assignedSlot db lesson session) with
              | true => rfl
              | false =>
                simp only [Bool.false_eq_true, if_false, List.nil_append]
                rw [outcome_billAssignedSlot fresh]
                rfl
          · rw [if_pos long, decide_eq_false long]
            rfl
        · rw [if_pos owned, decide_eq_false owned]
          rfl

theorem outcome_assignSlotDirect (fresh : Fresh db lesson session) (notes : Option String) :
    outcome answer (Program.assignSlotDirect session (assignment lesson notes)) db =
      some (if assignmentGates db lesson notes session then assignedBilling db lesson
        else .refused) := by
  rw [outcome, assignmentGates, requestGates, Program.assignSlotDirect]
  have minutes : (assignment lesson notes).durationMinutes =
      .integer lesson.slot.durationMinutes := rfl
  have teacher : (assignment lesson notes).teacherAccountId = lesson.slot.teacherAccountId := rfl
  have learner : (assignment lesson notes).learnerAccountId =
      .canonical lesson.learnerAccountId := rfl
  rw [minutes, teacher, learner, positiveInteger_filter]
  by_cases self : lesson.slot.teacherAccountId = lesson.learnerAccountId
  · rw [if_pos (congrArg UuidText.canonical self), decide_eq_false (not_not.mpr self)]
    rfl
  rw [if_neg fun same => self (congrArg UuidText.id same), decide_eq_true self]
  by_cases long : 30 ≤ lesson.slot.durationMinutes
  · rw [if_pos long, decide_eq_true long]
    change Option.map billingOf (Program.alone store answer (if (notes.any fun notes =>
      decide (notesMax < jsLength notes)) = true then _ else _) db []).2 = _
    cases notes.any fun notes => decide (notesMax < jsLength notes) with
    | true => rfl
    | false =>
      simp only [Bool.false_eq_true, if_false]
      change Option.map billingOf (Program.alone store answer
        (if lesson.slot.startAt ≤ db.clock then _ else _) db []).2 = _
      by_cases future : db.clock < lesson.slot.startAt
      · rw [if_neg (Nat.not_le.mpr future), decide_eq_true future]
        cases outOfBand lesson.slot.startAt with
        | true => rfl
        | false => exact outcome_assignInTx fresh notes
      · rw [if_pos (Nat.not_lt.mp future), decide_eq_false future]
        rfl
  · rw [if_neg long, decide_eq_false long]
    rfl

end Runs

/-- A booking and an assignment that are both accepted are billed alike.  Where nothing but the
billing can refuse them they are billed alike if a way to pay has been agreed on or no package has
a unit left; otherwise the booking is refused and the assignment takes a unit. -/
theorem billed_alike {answer : GatewayAnswer} {db : Db} {lesson : Lesson} {session : Nat}
    (fresh : Fresh db lesson session) (actor : Actor) (expectedTeacherId : Option RowId)
    (notes : Option String) : ∃ booked assigned,
      (outcome answer (Program.bookSlot (booking lesson actor expectedTeacherId))
          (offered db lesson) = some booked ∧
        outcome answer (Program.assignSlotDirect session (assignment lesson notes)) db =
          some assigned) ∧ (booked ≠ .refused -> assigned ≠ .refused -> booked = assigned) ∧
      (bookingGates db lesson expectedTeacherId = true ->
        assignmentGates db lesson notes session = true ->
          ((method db lesson ≠ .none ∨ package? db lesson = none) -> booked = assigned) ∧
            ∀ purchaseId, method db lesson = .none -> package? db lesson = some purchaseId ->
              booked = .refused ∧ assigned = .prepaid purchaseId) := by
  refine ⟨_, _, ⟨outcome_bookSlot fresh actor expectedTeacherId,
    outcome_assignSlotDirect fresh notes⟩, ?_, ?_⟩
  · intro accepted also
    cases gates : bookingGates db lesson expectedTeacherId with
    | false =>
      rw [gates] at accepted
      exact absurd rfl accepted
    | true =>
      cases others : assignmentGates db lesson notes session with
      | false =>
        rw [others] at also
        exact absurd rfl also
      | true =>
        rw [gates, if_pos rfl, bookedBilling] at accepted
        rw [if_pos rfl, if_pos rfl, bookedBilling, assignedBilling]
        by_cases agreed : method db lesson = .none
        · rw [if_pos agreed] at accepted
          exact absurd rfl accepted
        · rw [if_neg agreed]
          cases package? db lesson with
          | some purchaseId => rfl
          | none =>
            dsimp only
            rw [if_neg agreed]
  · intro gates others
    rw [gates, others, if_pos rfl, if_pos rfl, bookedBilling, assignedBilling]
    refine ⟨?_, ?_⟩
    · rintro (agreed | none_)
      · rw [if_neg agreed]
        cases package? db lesson with
        | some purchaseId => rfl
        | none =>
          dsimp only
          rw [if_neg agreed]
      · rw [none_]
        dsimp only
        by_cases agreed : method db lesson = .none
        · rw [if_pos agreed, if_pos agreed, ite_self]
        · rw [if_neg agreed, if_neg agreed]
    · intro purchaseId disagreed found
      rw [if_pos disagreed, found]
      exact ⟨rfl, rfl⟩

/-- A lesson at noon, in Moscow, on the first day of the year. -/
def noonOfTariff : Lesson where
  slot :=
    { id := .seeded 1
      teacherAccountId := .seeded 2
      startAt := 32400000
      durationMinutes := 60
      status := .open
      isPersonalEvent := false
      learnerAccountId := none
      tariffId := some (.seeded 3)
      snapshotAmountKopecks := none
      cancelledAt := none
      cancelledByAccountId := none
      cancellationReason := none
      markedAt := none
      updatedAt := 0 }
  tariffId := .seeded 3
  learnerAccountId := .seeded 4

def fiveLessons : PackagePurchase where
  id := .seeded 5
  accountId := .seeded 4
  packageId := .seeded 6
  teacherId := some (.seeded 2)
  paymentOrderId := .generated (.seeded 7)
  amountKopecks := 1000000
  titleSnapshot := "5"
  durationMinutes := 60
  countInitial := 5
  expiresAt := 86400000
  voidedAt := none

/-- The learner has the package, and no way to pay has been agreed on. -/
def packageOnly : Db :=
  { Db.empty with
    purchases := [fiveLessons]
    catalog := { Catalog.empty with
      linked := fun _ _ => true
      tariff := fun _ => some
        { teacherId := some (.seeded 2)
          durationMinutes := 60
          amountKopecks := 250000
          isActive := true
          isDeleted := false
          isPrivate := false } } }

theorem fresh_packageOnly : Fresh packageOnly noonOfTariff 0 where
  tables :=
    { purchases := List.nodup_singleton _
      consumptions := List.nodup_nil
      slots := fun _ member => absurd member List.not_mem_nil }
  open_ := rfl
  priced := rfl
  absent := rfl
  free := rfl

theorem package?_packageOnly : package? packageOnly noonOfTariff = some (.seeded 5) := by
  have eligible : packageOnly.purchases.filter (fun row =>
      row.eligible packageOnly.clock noonOfTariff.learnerAccountId
        noonOfTariff.slot.durationMinutes noonOfTariff.slot.teacherAccountId &&
          packageOnly.hasRemaining row) = [fiveLessons] := by
    decide
  rw [package?, Db.eligiblePackages, eligible, List.mergeSort_singleton]
  rfl

theorem billed_alike_packageOnly : ∃ booked assigned,
      (outcome (.failed "") (Program.bookSlot (booking noonOfTariff .learner none))
          (offered packageOnly noonOfTariff) = some booked ∧
        outcome (.failed "") (Program.assignSlotDirect 0 (assignment noonOfTariff none))
          packageOnly = some assigned) ∧
      (booked ≠ .refused -> assigned ≠ .refused -> booked = assigned) ∧
      (bookingGates packageOnly noonOfTariff none = true ->
        assignmentGates packageOnly noonOfTariff none 0 = true ->
          ((method packageOnly noonOfTariff ≠ .none ∨ package? packageOnly noonOfTariff = none) ->
            booked = assigned) ∧ ∀ purchaseId, method packageOnly noonOfTariff = .none ->
              package? packageOnly noonOfTariff = some purchaseId ->
                booked = .refused ∧ assigned = .prepaid purchaseId) :=
  billed_alike fresh_packageOnly .learner none none

/-- The booking is refused, and the assignment takes a unit of the package. -/
theorem not_billed_alike_packageOnly :
    ¬∀ (answer : GatewayAnswer) (db : Db) (lesson : Lesson) (session : Nat),
      Fresh db lesson session -> ∀ actor expectedTeacherId notes,
        outcome answer (Program.bookSlot (booking lesson actor expectedTeacherId))
            (offered db lesson) =
          outcome answer (Program.assignSlotDirect session (assignment lesson notes)) db := by
  intro all
  have same := all (.failed "") packageOnly noonOfTariff 0 fresh_packageOnly .learner none none
  have refused : bookedBilling packageOnly noonOfTariff = .refused := rfl
  have gates : assignmentGates packageOnly noonOfTariff none 0 = true := by decide
  rw [outcome_bookSlot fresh_packageOnly, outcome_assignSlotDirect fresh_packageOnly, refused,
    ite_self, gates, if_pos rfl, assignedBilling, package?_packageOnly] at same
  cases same

end LessonBilling

end LevelChannel
