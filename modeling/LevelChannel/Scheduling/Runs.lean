import LevelChannel.Scheduling.Obedience
import LevelChannel.Scheduling.Outcomes

namespace LevelChannel.Scheduling

open ReadCommitted Tables Relation

/-!
# Runs of the lesson and package routes

Any number of sessions, each of them one request of any of these routes, in any order of
their steps.  Status and completion agree in every state, what is settled or past its
window stays, and the units of a package stay within what was bought as long as every
direct assignment hashes the learner's id as the database prints it.
-/

variable {db : Db}

/-- What moves slots, completions, purchases and consumptions. -/
inductive Request where
  | bookSlot (input : Program.BookSlot)
  | assignSlotDirect (input : Program.AssignSlotDirect)
  | rescheduleSlotByLearner (slotId learnerAccountId : RowId) (newStartAt : Option Nat)
      (cancelWindowHours : Nat)
  | rescheduleSlotByTeacher (slotId teacherAccountId : RowId) (newStartAt : Option Nat)
      (reason : Option String)
  | cancelSlot (slotId cancelledByAccountId : RowId) (reason : Option String) (actor : Actor)
  | cancelLearnerSlot (slotId learnerAccountId : RowId) (reason : Option String)
      (envFallbackMinutes : Nat)
  | cancelSlotByTeacher (slotId teacherAccountId : RowId) (reason : Option String)
  | markSlotLifecycle (slotId : RowId) (status : SlotLifecycleStatus) (actorAccountId : RowId)
  | markSlotByTeacher (slotId teacherAccountId : RowId) (status : SlotLifecycleStatus)
  | changeLessonStatus (slotId teacherAccountId : RowId) (toStatus : LessonTargetStatus)
      (expectedUpdatedAt : Nat)
  | changeDealStatus (slotId teacherAccountId : RowId) (toStatus : DealTargetStatus)
      (expectedUpdatedAt : Nat)
  | transitionPersonalEvent (slotId teacherAccountId : RowId)
      (cancellationReason : Option (Option String))
  | uncomplete (teacherAccountId completionId : RowId)
  | stampLessonCompletionsImmutable
  | settle (request : SettleRequest)
  | checkout (request : Program.CheckoutRequest)
  | processPackageGrant (invoiceId : InvoiceId)
  | adminGrant (request : Program.AdminGrantRequest)
  | issueTeacherPackageGrant (request : Program.TeacherGrantRequest)
  | revokeTeacherPackageGrant (invoiceId : InvoiceId) (teacherAccountId : Option RowId)
  | manualRefund (request : ManualRefundRequest)

namespace Request

def program (session : Nat) : Request -> Program
  | .bookSlot input => .bookSlot input
  | .assignSlotDirect input => .assignSlotDirect session input
  | .rescheduleSlotByLearner slotId learnerAccountId newStartAt cancelWindowHours =>
    .rescheduleSlotByLearner session slotId learnerAccountId newStartAt cancelWindowHours
  | .rescheduleSlotByTeacher slotId teacherAccountId newStartAt reason =>
    .rescheduleSlotByTeacher session slotId teacherAccountId newStartAt reason
  | .cancelSlot slotId cancelledByAccountId reason actor =>
    .cancelSlot slotId cancelledByAccountId reason actor
  | .cancelLearnerSlot slotId learnerAccountId reason envFallbackMinutes =>
    .cancelLearnerSlot slotId learnerAccountId reason envFallbackMinutes
  | .cancelSlotByTeacher slotId teacherAccountId reason =>
    .cancelSlotByTeacher slotId teacherAccountId reason
  | .markSlotLifecycle slotId status actorAccountId =>
    .markSlotLifecycle session slotId status actorAccountId
  | .markSlotByTeacher slotId teacherAccountId status =>
    .markSlotByTeacher session slotId teacherAccountId status
  | .changeLessonStatus slotId teacherAccountId toStatus expectedUpdatedAt =>
    .changeLessonStatus session slotId teacherAccountId toStatus expectedUpdatedAt
  | .changeDealStatus slotId teacherAccountId toStatus expectedUpdatedAt =>
    .changeDealStatus slotId teacherAccountId toStatus expectedUpdatedAt
  | .transitionPersonalEvent slotId teacherAccountId cancellationReason =>
    .transitionPersonalEvent slotId teacherAccountId cancellationReason
  | .uncomplete teacherAccountId completionId => .uncomplete teacherAccountId completionId
  | .stampLessonCompletionsImmutable => .stampLessonCompletionsImmutable
  | .settle request => .settle session request
  | .checkout request => .checkout session request
  | .processPackageGrant invoiceId => .processPackageGrant session invoiceId
  | .adminGrant request => .adminGrant session request
  | .issueTeacherPackageGrant request => .issueTeacherPackageGrant session request
  | .revokeTeacherPackageGrant invoiceId teacherAccountId =>
    .revokeTeacherPackageGrant invoiceId teacherAccountId
  | .manualRefund request => .manualRefund session request

def SpellsLearner : Request -> Prop
  | .assignSlotDirect input => input.learnerAccountId.IsCanonical
  | _ => True

end Request

def opening (db : Db) (requests : Nat -> Request) : State :=
  State.start db fun session => (requests session).program session

-- unification would otherwise start to trim the reason
attribute [local irreducible] Program.rescheduleSlotByTeacher in
theorem request_safe {terms : Terms} {permits : Label -> Db -> Prop} {session : Nat}
    (request : Request) (spelled : terms.canonical -> request.SpellsLearner)
    (good : Good terms db) :
    (contract terms).Safe store permits session (request.program session) [] [] db := by
  have obedient : ∀ {program : Program}, (discipline terms).Obeys session program ->
      (contract terms).Safe store permits session program [] [] db :=
    fun obeys => safe_afresh obeys good
  cases request with
  | bookSlot input =>
    exact bookSlot_safe input good
  | assignSlotDirect input =>
    exact assignSlotDirect_safe input spelled good
  | rescheduleSlotByLearner slotId learnerAccountId newStartAt cancelWindowHours =>
    exact rescheduleSlotByLearner_safe slotId learnerAccountId newStartAt cancelWindowHours good
  | rescheduleSlotByTeacher slotId teacherAccountId newStartAt reason =>
    exact rescheduleSlotByTeacher_safe slotId teacherAccountId newStartAt reason good
  | cancelSlot slotId cancelledByAccountId reason actor =>
    rw [Request.program]
    apply obedient
    apply cancelSlot_obeys
  | cancelLearnerSlot slotId learnerAccountId reason envFallbackMinutes =>
    rw [Request.program]
    apply obedient
    apply cancelLearnerSlot_obeys
  | cancelSlotByTeacher slotId teacherAccountId reason =>
    rw [Request.program]
    apply obedient
    apply cancelSlotByTeacher_obeys
  | markSlotLifecycle slotId status actorAccountId =>
    exact markSlotLifecycle_safe slotId status actorAccountId good
  | markSlotByTeacher slotId teacherAccountId status =>
    exact markSlotByTeacher_safe slotId teacherAccountId status good
  | changeLessonStatus slotId teacherAccountId toStatus expectedUpdatedAt =>
    exact changeLessonStatus_safe good
  | changeDealStatus slotId teacherAccountId toStatus expectedUpdatedAt =>
    exact changeDealStatus_safe slotId teacherAccountId toStatus expectedUpdatedAt good
  | transitionPersonalEvent slotId teacherAccountId cancellationReason =>
    exact transitionPersonalEvent_safe slotId teacherAccountId cancellationReason good
  | uncomplete teacherAccountId completionId =>
    exact uncomplete_safe teacherAccountId completionId good
  | stampLessonCompletionsImmutable =>
    exact obedient stampLessonCompletionsImmutable_obeys
  | settle request =>
    exact obedient (settle_obeys request)
  | checkout request =>
    exact obedient (checkout_obeys request)
  | processPackageGrant invoiceId =>
    exact obedient (processPackageGrant_obeys invoiceId)
  | adminGrant request =>
    exact obedient (adminGrant_obeys request)
  | issueTeacherPackageGrant request =>
    exact obedient (issueTeacherPackageGrant_obeys request)
  | revokeTeacherPackageGrant invoiceId teacherAccountId =>
    exact obedient (revokeTeacherPackageGrant_obeys invoiceId teacherAccountId)
  | manualRefund request =>
    exact obedient (manualRefund_obeys request)

section Runs

variable {terms : Terms} {requests : Nat -> Request} {first last : State}

theorem sound_opening (good : Good terms db)
    (spelled : terms.canonical -> ∀ session, (requests session).SpellsLearner) :
    Contract.Sound (contract terms) store (fun _ _ => True) (opening db requests) :=
  Contract.Sound.start good fun session =>
    request_safe (requests session) (fun canonical => spelled canonical session) good

theorem good_of_reaches (good : Good terms db)
    (spelled : terms.canonical -> ∀ session, (requests session).SpellsLearner)
    (reached : Reaches store (fun _ _ => True) (opening db requests) first) :
    Good terms first.db :=
  ((sound_opening good spelled).reaches (steady terms) reached).1.good

theorem moves_kept {before after : Db}
    (moved : Contract.Moves (contract terms) store before after) :
    History terms before after ∧ NoneAfterVoid before after ∧
      ∀ id row, before.purchase? id = some row ->
        ∃ now, after.purchase? id = some now ∧ Repackages row now := by
  have same : ∀ {second : Db}, second.completions = before.completions ->
      second.erasures = before.erasures ->
      second.settlementCompletions = before.settlementCompletions ->
      second.consumptions = before.consumptions -> second.purchases = before.purchases ->
      History terms before second ∧ NoneAfterVoid before second ∧
        ∀ id row, before.purchase? id = some row ->
          ∃ now, second.purchase? id = some now ∧ Repackages row now := by
    intro second completions erasures settled consumptions purchases
    refine ⟨⟨?_, ?_, ?_⟩, ?_, ?_⟩
    · intro id row read
      refine Or.inl ⟨row, ?_, Revises.refl row⟩
      rw [Db.completion?, completions]
      exact (key_of_get read : row.id = id) ▸ read
    · rw [erasures]
      exact fun _ member => member
    · intro id uncovered
      rwa [Db.covered, settled] at uncovered
    · intro slotId row read _ _ _
      rw [Db.consumption?, consumptions] at read
      exact ⟨row, read, rfl⟩
    · intro id row read
      exact ⟨row, by rwa [Db.purchase?, purchases], Repackages.refl row⟩
  rcases moved with ⟨-, -, rfl | ⟨change, rfl⟩ | ⟨session, held, kept⟩⟩
  · exact same rfl rfl rfl rfl rfl
  · cases change with
    | slot row =>
      refine same ?_ ?_ ?_ ?_ ?_ <;> simp only [store_drift, Db.drift] <;> split <;> rfl
    | allocation row =>
      refine same ?_ ?_ ?_ ?_ ?_ <;> simp only [store_drift, Db.drift, Db.allocate] <;>
        split <;> rfl
    | tick milliseconds => exact same rfl rfl rfl rfl rfl
    | catalog catalog => exact same rfl rfl rfl rfl rfl
    | order change => exact same rfl rfl rfl rfl rfl
    | earning row => exact same rfl rfl rfl rfl rfl
  · have bounded : Guarantee terms held before after := kept
    exact ⟨bounded.lessons.history, bounded.packages.voids, bounded.packages.repackaged⟩

theorem run_kept {before after : Db}
    (moved : ReflTransGen (Contract.Moves (contract terms) store) before after) :
    History terms before after ∧ NoneAfterVoid before after ∧
      ∀ id row, before.purchase? id = some row ->
        ∃ now, after.purchase? id = some now ∧ Repackages row now := by
  induction moved with
  | refl =>
    exact ⟨.refl before, fun _ row read _ _ _ => ⟨row, read, rfl⟩,
      fun _ row read => ⟨row, read, .refl row⟩⟩
  | tail _ step kept =>
    rcases kept with ⟨history, voids, repackaged⟩
    rcases moves_kept step with ⟨historyStep, voidsStep, repackagedStep⟩
    refine ⟨history.trans historyStep, ?_, ?_⟩
    · intro slotId row read purchase readPurchase voided
      rcases repackaged _ purchase readPurchase with ⟨now, readNow, again⟩
      rcases voidsStep slotId row read now readNow (again.voided voided) with ⟨old, readOld, same⟩
      rcases voids slotId old readOld purchase (by rwa [same]) voided with
        ⟨oldest, readOldest, alike⟩
      exact ⟨oldest, readOldest, alike.trans same⟩
    · intro id row read
      rcases repackaged id row read with ⟨now, readNow, again⟩
      rcases repackagedStep id now readNow with ⟨last, readLast, further⟩
      exact ⟨last, readLast, again.trans further⟩

theorem history_of_reaches (good : Good terms db)
    (spelled : terms.canonical -> ∀ session, (requests session).SpellsLearner)
    (before : Reaches store (fun _ _ => True) (opening db requests) first)
    (after : Reaches store (fun _ _ => True) first last) :
    History terms first.db last.db ∧ NoneAfterVoid first.db last.db := by
  have sound := ((sound_opening good spelled).reaches (steady terms) before).1
  have kept := run_kept (sound.reaches (steady terms) after).2
  exact ⟨kept.1, kept.2.1⟩

/-- A database whose lessons and packages are in order and in which nothing is noted as
erased. -/
structure Opening (db : Db) : Prop where
  good : Good ⟨db.clock, False⟩ db
  erasures : db.erasures = []

theorem agree_cases (good : Good terms db) {slot : LessonSlot} (member : slot ∈ db.slots)
    (lesson : slot.isPersonalEvent = false) (flag : Bool) : slot.status = outcomeStatus flag <->
      ∃ row, row ∈ db.completions ∧ row.slotId = slot.id ∧ row.wasNoShow = flag := by
  have agree : outcome slot.status = recorded db slot.id := good.agree slot member lesson
  have marked : slot.status = outcomeStatus flag <-> outcome slot.status = some flag := by
    cases flag <;> cases status : slot.status <;> simp [outcomeStatus, outcome]
  rw [marked, agree, recorded, Option.map_eq_some_iff]
  constructor
  · rintro ⟨row, read, noted⟩
    exact ⟨row, mem_of_get read, key_of_get read, noted⟩
  · rintro ⟨row, listed, placed, noted⟩
    exact ⟨row, placed ▸ get_of_mem good.inv.oneCompletion listed, noted⟩

/-- In every state of every run, the status of a lesson says what its completion says, a
lesson with any other status has none, and no slot has two. -/
theorem status_matches_completion (start : Opening db)
    (reached : Reaches store (fun _ _ => True) (opening db requests) last) :
    (∀ slot, slot ∈ last.db.slots -> slot.isPersonalEvent = false ->
        (slot.status = .completed <-> ∃ row, row ∈ last.db.completions ∧
          row.slotId = slot.id ∧ row.wasNoShow = false) ∧
        (slot.status = .noShowLearner <-> ∃ row, row ∈ last.db.completions ∧
          row.slotId = slot.id ∧ row.wasNoShow = true) ∧
        (slot.status ≠ .completed -> slot.status ≠ .noShowLearner ->
          ∀ row, row ∈ last.db.completions -> row.slotId ≠ slot.id)) ∧
      ∀ one, one ∈ last.db.completions -> ∀ two, two ∈ last.db.completions ->
        one.slotId = two.slotId -> one = two := by
  have good := good_of_reaches start.good (fun canonical => canonical.elim) reached
  constructor
  · intro slot member lesson
    have taught := agree_cases good member lesson false
    have missed := agree_cases good member lesson true
    refine ⟨taught, missed, ?_⟩
    intro notCompleted notMissed row listed placed
    cases noted : row.wasNoShow with
    | false => exact notCompleted (taught.mpr ⟨row, listed, placed, noted⟩)
    | true => exact notMissed (missed.mpr ⟨row, listed, placed, noted⟩)
  · intro one memberOne two memberTwo same
    exact List.inj_on_of_nodup_map good.inv.oneCompletion memberOne memberTwo same

/-- A completion of any state of a run is still there in every later one, with its amount,
unless nothing covered it and a request of this run deleted it, having found it to be less
than 48 hours old. -/
theorem completion_lasts (start : Opening db)
    (before : Reaches store (fun _ _ => True) (opening db requests) first)
    (after : Reaches store (fun _ _ => True) first last) :
    ∀ row, row ∈ first.db.completions ->
      (∃ now, now ∈ last.db.completions ∧ now.id = row.id ∧ now.amountKopecks = row.amountKopecks) ∨
        (first.db.covered row.id = false ∧
          ∃ erasure, erasure ∈ last.db.erasures ∧ erasure.completion.id = row.id ∧
            db.clock ≤ erasure.begunAt ∧ erasure.begunAt ≤ erasure.judgedAt ∧
            erasure.judgedAt < row.createdAt + fortyEightHoursMs) := by
  intro row member
  have good := good_of_reaches start.good (fun canonical => canonical.elim) before
  have history := (history_of_reaches start.good (fun canonical => canonical.elim) before after).1
  rcases history.lasting row.id row (get_of_mem good.inv.completionUnique member) with
    ⟨now, read, revises⟩ | ⟨uncovered, -, erasure, listed, timely, revises⟩
  · exact Or.inl ⟨now, mem_of_get read, revises.id, revises.amountKopecks⟩
  · refine Or.inr ⟨uncovered, erasure, listed, revises.id, timely.since, timely.ordered, ?_⟩
    have window := timely.window
    rwa [revises.createdAt] at window

/-- Every package starts with no more units in use than it has. -/
def WithinCount (db : Db) : Prop :=
  ∀ purchase, purchase ∈ db.purchases -> db.activeCount purchase.id ≤ purchase.countInitial

/-- Where direct assignments spell the learner as the database does, packages are not
overdrawn, a slot uses at most one unit, a unit suits its slot, and a voided package gives
no new unit. -/
theorem packages_in_order (start : Opening db) (within : WithinCount db)
    (spelled : ∀ session, (requests session).SpellsLearner)
    (before : Reaches store (fun _ _ => True) (opening db requests) first)
    (after : Reaches store (fun _ _ => True) first last) :
    WithinCount last.db ∧
      (∀ one, one ∈ last.db.consumptions -> ∀ two, two ∈ last.db.consumptions ->
        one.slotId = two.slotId -> one = two) ∧
      (∀ row, row ∈ last.db.consumptions -> row.active = true ->
        ∃ slot purchase, slot ∈ last.db.slots ∧ slot.id = row.slotId ∧
          purchase ∈ last.db.purchases ∧ purchase.id = row.packagePurchaseId ∧
          slot.learnerAccountId = some purchase.accountId ∧
          slot.durationMinutes = purchase.durationMinutes ∧
          (purchase.teacherId = none ∨ purchase.teacherId = some slot.teacherAccountId)) ∧
      ∀ row, row ∈ last.db.consumptions -> ∀ purchase, purchase ∈ first.db.purchases ->
          purchase.id = row.packagePurchaseId -> purchase.voidedAt.isSome ->
            ∃ old, old ∈ first.db.consumptions ∧ old.slotId = row.slotId ∧
              old.packagePurchaseId = row.packagePurchaseId := by
  have capacious : Good ⟨db.clock, True⟩ db :=
    { start.good with
      inv :=
        { start.good.inv with
          capacity := fun _ => within } }
  have sound := (sound_opening capacious fun _ => spelled).reaches (steady _) before
  have reached := sound.1.reaches (steady _) after
  have good := reached.1.good
  have voids := (run_kept reached.2).2.1
  refine ⟨good.inv.capacity trivial, ?_, ?_, ?_⟩
  · intro one memberOne two memberTwo same
    exact List.inj_on_of_nodup_map good.inv.consumptionUnique memberOne memberTwo same
  · intro row member active
    rcases good.inv.consumptionPlaced row member with
      ⟨slot, purchase, readSlot, readPurchase, -, suits⟩
    have covers := suits active
    exact ⟨slot, purchase, mem_of_get readSlot, key_of_get readSlot, mem_of_get readPurchase,
      key_of_get readPurchase, covers.learnerAccountId, covers.durationMinutes, covers.teacherId⟩
  · intro row member purchase bought same voided
    have read := get_of_mem good.inv.consumptionUnique member
    have readPurchase := get_of_mem sound.1.good.inv.purchaseUnique bought
    rw [same] at readPurchase
    rcases voids row.slotId row read purchase readPurchase voided with ⟨old, readOld, alike⟩
    exact ⟨old, mem_of_get readOld, key_of_get readOld, alike⟩

end Runs

def turns (session count : Nat) : List Event :=
  List.replicate count (.run session (.unsent ""))

def taughtSlot : LessonSlot where
  id := .seeded 0
  teacherAccountId := .seeded 1
  startAt := 0
  durationMinutes := 60
  status := .completed
  isPersonalEvent := false
  learnerAccountId := some (.seeded 2)
  tariffId := none
  snapshotAmountKopecks := none
  cancelledAt := none
  cancelledByAccountId := none
  cancellationReason := none
  markedAt := none
  updatedAt := 0

def taughtCompletion : LessonCompletion where
  id := .seeded 7
  slotId := taughtSlot.id
  teacherId := taughtSlot.teacherAccountId
  wasNoShow := false
  amountKopecks := 100000
  completedAt := 0
  immutableAt := none
  markedByAccountId := none
  createdAt := 0

def taughtDb : Db :=
  { Db.empty with
    slots := [taughtSlot]
    completions := [taughtCompletion] }

theorem taughtDb_opening : Opening taughtDb where
  good :=
    { inv :=
        { slotUnique := by simp [Tables.Unique, taughtDb]
          completionUnique := by simp [Tables.Unique, taughtDb]
          oneCompletion := by simp [Tables.Unique, taughtDb]
          completionPlaced := by
            intro row member
            rw [List.mem_singleton.mp member]
            rfl
          purchaseUnique := List.nodup_nil
          consumptionUnique := List.nodup_nil
          consumptionPlaced := by simp [taughtDb, Db.empty]
          capacity := fun canonical => canonical.elim }
      agree := by
        intro slot member _
        rw [List.mem_singleton.mp member]
        rfl
      since := Nat.le_refl _ }
  erasures := rfl

/-- The teacher takes the mark back, and another request asks for the same. -/
def takenBack : Nat -> Request :=
  fun _ => .uncomplete taughtSlot.teacherAccountId taughtCompletion.id

theorem status_matches_completion_taken_back : Opening taughtDb ∧
      ∃ last, Reaches store (fun _ _ => True) (opening taughtDb takenBack) last ∧
        last.db.slots.map LessonSlot.status = [.booked] ∧
        ∀ one, one ∈ last.db.completions -> ∀ two, two ∈ last.db.completions ->
          one.slotId = two.slotId -> one = two := by
  rcases exists_of_play store (opening taughtDb takenBack) (turns 0 7)
    (fun db => db.slots.map LessonSlot.status = [.booked]) (by decide) with ⟨last, reached, status⟩
  exact ⟨taughtDb_opening, last, reached, status,
    (status_matches_completion taughtDb_opening reached).2⟩

theorem completion_lasts_taken_back :
    ∃ last, Reaches store (fun _ _ => True) (opening taughtDb takenBack) last ∧
      last.db.completions = [] ∧ ∃ erasure, erasure ∈ last.db.erasures ∧
          erasure.completion.id = taughtCompletion.id ∧
          erasure.judgedAt < taughtCompletion.createdAt + fortyEightHoursMs := by
  rcases exists_of_play store (opening taughtDb takenBack) (turns 0 7)
    (fun db => db.completions = []) (by decide) with ⟨last, reached, gone⟩
  refine ⟨last, reached, gone, ?_⟩
  have lasts := completion_lasts taughtDb_opening (Reaches.refl (opening taughtDb takenBack))
    reached taughtCompletion (List.mem_singleton_self _)
  rw [gone] at lasts
  rcases lasts with ⟨now, member, -⟩ | ⟨-, erasure, listed, same, -, -, window⟩
  · cases member
  · exact ⟨erasure, listed, same, window⟩

/-- A teacher's tariff, and a package of one lesson that the learner has bought. -/
def rosterCatalog : Catalog :=
  { Catalog.empty with
    linked := fun _ _ => true
    tariff := fun _ => some
      { teacherId := some (.seeded 1)
        durationMinutes := 60
        amountKopecks := 100000
        isActive := true
        isPrivate := false
        isDeleted := false } }

def oneLesson : PackagePurchase where
  id := .seeded 3
  accountId := .seeded 2
  packageId := .seeded 4
  teacherId := some (.seeded 1)
  paymentOrderId := .generated (.seeded 5)
  amountKopecks := 100000
  titleSnapshot := "1"
  durationMinutes := 60
  countInitial := 1
  expiresAt := 1000000000
  voidedAt := none

def rosterDb : Db :=
  { Db.empty with
    catalog := rosterCatalog
    purchases := [oneLesson] }

theorem rosterDb_opening : Opening rosterDb where
  good :=
    { inv :=
        { slotUnique := List.nodup_nil
          completionUnique := List.nodup_nil
          oneCompletion := List.nodup_nil
          completionPlaced := by simp [rosterDb, Db.empty]
          purchaseUnique := by simp [Tables.Unique, rosterDb]
          consumptionUnique := List.nodup_nil
          consumptionPlaced := by simp [rosterDb, Db.empty]
          capacity := fun canonical => canonical.elim }
      agree := by simp [rosterDb, Db.empty]
      since := Nat.le_refl _ }
  erasures := rfl

theorem rosterDb_within : WithinCount rosterDb := by
  simp [WithinCount, rosterDb, Db.empty, Db.activeCount, oneLesson]

/-- The teacher assigns a lesson from the package, at noon of the second day or an hour
later, to the learner spelled in one way or another. -/
def assignment (hour spelling : Nat) : Request :=
  .assignSlotDirect
    { teacherAccountId := .seeded 1
      learnerAccountId := ⟨.seeded 2, spelling⟩
      startAt := some (86400000 + hour * 3600000)
      durationMinutes := .integer 60
      tariffId := .seeded 6
      notes := none
      billingChoice := .package
      packagePurchaseId := none }

def spelledTwice : Nat -> Request
  | 0 => assignment 9 0
  | 1 => assignment 10 1
  | _ => .stampLessonCompletionsImmutable

def spelledTwiceEvents : List Event := turns 0 8 ++ turns 1 8 ++ turns 0 3 ++ turns 1 3

theorem package_overdrawn :
    ¬ ∀ (db : Db) (requests : Nat -> Request) (state : State), Opening db -> WithinCount db ->
      Reaches store (fun _ _ => True) (opening db requests) state -> WithinCount state.db := by
  intro within
  rcases exists_of_play store (opening rosterDb spelledTwice) spelledTwiceEvents
    (fun db => db.purchases = [oneLesson] ∧ db.activeCount oneLesson.id = 2) (by decide +kernel)
    with ⟨state, reached, purchases, used⟩
  have most := within rosterDb spelledTwice state rosterDb_opening rosterDb_within reached
    oneLesson (by rw [purchases]; exact List.mem_singleton_self _)
  rw [used] at most
  exact absurd most (by decide)

def spelledOnce : Nat -> Request
  | 0 => assignment 9 0
  | _ => .stampLessonCompletionsImmutable

theorem packages_in_order_roster : Opening rosterDb ∧ WithinCount rosterDb ∧
      (∀ session, (spelledOnce session).SpellsLearner) ∧
      ∃ state, Reaches store (fun _ _ => True) (opening rosterDb spelledOnce) state ∧
        state.db.activeCount oneLesson.id = 1 ∧ WithinCount state.db := by
  have spelled : ∀ session, (spelledOnce session).SpellsLearner := by
    intro session
    match session with
    | 0 => exact UuidText.canonical_isCanonical _
    | _ + 1 => exact True.intro
  rcases exists_of_play store (opening rosterDb spelledOnce) (turns 0 11)
    (fun db => db.activeCount oneLesson.id = 1) (by decide +kernel) with ⟨state, reached, used⟩
  exact ⟨rosterDb_opening, rosterDb_within, spelled, state, reached, used,
    (packages_in_order rosterDb_opening rosterDb_within spelled reached (Reaches.refl state)).1⟩

end LevelChannel.Scheduling
