import LevelChannel.Lessons.Booking
import LevelChannel.ReadCommitted.Upkeep
import LevelChannel.Schema.Rules

namespace LevelChannel.Scheduling

open ReadCommitted Tables

/-!
# The rows of slots

A slot's row is written as a new version of a row that the session has found, with the same
teacher, time and tariff, or it is a lesson that is assigned or moved.  An upkeep that is
lenient with the former is upheld by every route that books, assigns, moves or cancels, as long
as it is ready for the latter.
-/

/-- Two versions of a slot.  A cancelled one stays cancelled. -/
structure Revision (old new : LessonSlot) : Prop where
  id : new.id = old.id
  teacherAccountId : new.teacherAccountId = old.teacherAccountId
  startAt : new.startAt = old.startAt
  durationMinutes : new.durationMinutes = old.durationMinutes
  tariffId : new.tariffId = old.tariffId
  live : new.status = .cancelled ∨ old.status ≠ .cancelled

theorem Revision.snapshot {old new : LessonSlot} (revision : Revision old new)
    (catalog : Catalog) : Revision old (new.snapshotOnBook catalog) := by
  rw [LessonSlot.snapshotOnBook]
  split
  · exact ⟨revision.id, revision.teacherAccountId, revision.startAt, revision.durationMinutes,
      revision.tariffId, revision.live⟩
  · exact revision

theorem mem_slots_applyAll {db : Db} {writes : List Write} {row : LessonSlot}
    (listed : row ∈ (store.applyAll db writes).slots) : row ∈ db.slots ∨ ∃ write, write ∈ writes ∧
        (write = .slot (.insert row) ∨ write = .slot (.replace row)) := by
  induction writes generalizing db with
  | nil => exact Or.inl listed
  | cons write writes extend =>
    rcases extend listed with before | ⟨later, member, wrote⟩
    · by_cases slots : write.table = .slots
      · cases write with
        | slot change =>
          cases change with
          | insert new =>
            rcases (mem_insert LessonSlot.id).mp before with old | rfl
            · exact Or.inl old
            · exact Or.inr ⟨_, List.mem_cons_self, Or.inl rfl⟩
          | replace new =>
            rcases mem_replace before with rfl | ⟨old, -⟩
            · exact Or.inr ⟨_, List.mem_cons_self, Or.inr rfl⟩
            · exact Or.inl old
          | delete gone => exact Or.inl (mem_delete.mp before).1
        | _ => cases slots
      · have same := @slots_applyAll [write]
          (fun other listed => List.mem_singleton.mp listed ▸ slots) db
        exact Or.inl (same ▸ before)
    · exact Or.inr ⟨later, List.mem_cons_of_mem _ member, wrote⟩

section Upholds

variable {Known : Type} {upkeep : Upkeep Db Write Known} {session : Nat} {known : Known}

/-- Whatever is no slot may be written, and so may a new version of a slot. -/
structure Lenient (upkeep : Upkeep Db Write Known) (session : Nat) : Prop where
  quiet : ∀ {db write}, write.table ≠ .slots -> upkeep.may session db write
  revised : ∀ {known db own old new}, upkeep.View store session known db own ->
    old ∈ own.slots -> Revision old new -> upkeep.may session db (.slot (.replace new))

theorem upholds_query {onError : Program} {next : Db -> Db -> Program}
    (failed : upkeep.Upholds store session upkeep.nothing onError)
    (went : ∀ db own, upkeep.View store session known db own ->
      upkeep.Upholds store session known (next db own)) :
    upkeep.Upholds store session known (Program.query onError next) :=
  ⟨failed, fun db own view =>
    ⟨fun _ listed => absurd listed List.not_mem_nil, known, view.knows, went db own view⟩⟩

theorem upholds_locking {locks : List Lock} {onError : Program} {next : Db -> Program}
    (failed : upkeep.Upholds store session upkeep.nothing onError)
    (went : ∀ own, upkeep.Upholds store session known (next own)) :
    upkeep.Upholds store session known (Program.locking locks onError next) :=
  ⟨failed, fun _ own view =>
    ⟨fun _ listed => absurd listed List.not_mem_nil, known, view.knows, went own⟩⟩

theorem upholds_execute {locks : List Lock} {onError : Program} {writes : Db -> List Write}
    {next : Db -> Program} (failed : upkeep.Upholds store session upkeep.nothing onError)
    (allowed : ∀ db own, upkeep.View store session known db own ->
      ∀ write, write ∈ writes own -> upkeep.may session db write)
    (went : ∀ own, upkeep.Upholds store session known (next own)) :
    upkeep.Upholds store session known (Program.execute locks onError writes next) :=
  ⟨failed, fun db own view => ⟨allowed db own view, known, view.knows, went own⟩⟩

theorem upholds_checked {locks : List Lock} {onError : Program} {rejects : Db -> Bool}
    {writes : Db -> List Write} {next : Db -> Program}
    (failed : upkeep.Upholds store session upkeep.nothing onError)
    (allowed : ∀ db own, upkeep.View store session known db own ->
      ∀ write, write ∈ writes own -> upkeep.may session db write)
    (went : ∀ db own, upkeep.View store session known db own ->
      ∃ learned, upkeep.knows session learned db ∧
        upkeep.Upholds store session learned (next own)) :
    upkeep.Upholds store session known (Program.checked locks onError rejects writes next) := by
  refine ⟨failed, fun db own view => ⟨fun write listed => ?_, ?_⟩⟩
  · beta_reduce at listed
    split at listed
    · cases listed
    · exact allowed db own view write listed
  · beta_reduce
    split
    · exact ⟨known, view.knows, failed⟩
    · exact went db own view

theorem upholds_checkedOr {locks : List Lock} {onError : Program} {onReject : String -> Program}
    {raises : Db -> Option String} {writes : Db -> List Write} {next : Db -> Program}
    (failed : upkeep.Upholds store session upkeep.nothing onError)
    (refused : ∀ message, upkeep.Upholds store session upkeep.nothing (onReject message))
    (allowed : ∀ db own, upkeep.View store session known db own -> raises own = none ->
      ∀ write, write ∈ writes own -> upkeep.may session db write)
    (went : ∀ own, upkeep.Upholds store session known (next own)) :
    upkeep.Upholds store session known
      (Program.checkedOr locks onError onReject raises writes next) := by
  refine ⟨failed, fun db own view => ⟨fun write listed => ?_, known, view.knows, ?_⟩⟩
  · beta_reduce at listed
    split at listed
    · cases listed
    · next passed =>
      exact allowed db own view (by simpa using passed) write listed
  · beta_reduce
    split
    · exact refused _
    · exact went own

variable (lenient : Lenient upkeep session)

include lenient

theorem upholds_insertConsumption {row : PackageConsumption} {onError : Program}
    {next : Bool -> Program} (failed : upkeep.Upholds store session upkeep.nothing onError)
    (went : ∀ created, upkeep.Upholds store session known (next created)) :
    upkeep.Upholds store session known (Program.insertConsumption row onError next) := by
  refine upholds_checked failed (fun db own _ write listed => lenient.quiet ?_)
    fun db own view => ⟨known, view.knows, went _⟩
  split at listed
  · cases listed
  · rw [List.mem_singleton.mp listed]
    simp [Write.table]

omit lenient in
theorem upholds_lockFirst {where_ : PackagePurchase -> Bool} {onError : Program}
    {next : Option PackagePurchase -> Program}
    (failed : upkeep.Upholds store session upkeep.nothing onError)
    (went : ∀ chosen, upkeep.Upholds store session known (next chosen)) (ids : List RowId) :
    upkeep.Upholds store session known (Program.lockFirst where_ onError next ids) := by
  induction ids with
  | nil => exact went none
  | cons id rest extend =>
    refine upholds_locking failed fun own => ?_
    split
    · exact went _
    · exact extend

theorem upholds_consumePackageUnit {now durationMinutes : Nat}
    {accountId slotId expectedTeacherId : RowId} {actor : Actor} {onError : Program}
    {next : Option RowId -> Program} (failed : upkeep.Upholds store session upkeep.nothing onError)
    (went : ∀ consumed, upkeep.Upholds store session known (next consumed)) :
    upkeep.Upholds store session known (Program.consumePackageUnit now accountId slotId
      durationMinutes actor expectedTeacherId onError next) := by
  refine upholds_query failed fun db own _ => upholds_lockFirst failed (fun chosen => ?_) _
  split
  · exact went none
  · exact upholds_insertConsumption lenient failed fun _ => went _

theorem upholds_restorePackageConsumption {now : Nat} {slotId : RowId} {actor : Actor}
    {reason : Option String} {onError : Program} {next : Option RowId -> Program}
    (failed : upkeep.Upholds store session upkeep.nothing onError)
    (went : ∀ restored, upkeep.Upholds store session known (next restored)) :
    upkeep.Upholds store session known
      (Program.restorePackageConsumption now slotId actor reason onError next) := by
  refine upholds_execute failed (fun db own _ write listed => lenient.quiet ?_) fun _ => went _
  split at listed
  · cases listed
  · rw [List.mem_singleton.mp listed]
    simp [Write.table]

omit lenient in
theorem reached_of_slotUpdate {own : Db} {slotId : RowId} {where_ : LessonSlot -> Bool}
    {set_ : LessonSlot -> LessonSlot} {versions : LessonSlot × LessonSlot}
    (update : own.slotUpdate slotId where_ set_ = some versions) :
    versions.1 ∈ own.slots ∧ versions.1.id = slotId ∧ where_ versions.1 = true ∧
      versions.2 = (set_ versions.1).snapshotOnBook own.catalog := by
  rcases Option.map_eq_some_iff.mp update with ⟨old, found, rfl⟩
  rcases Option.filter_eq_some_iff.mp found with ⟨read, chosen⟩
  exact ⟨mem_of_get read, key_of_get read, chosen, rfl⟩

theorem upholds_updateSlot {slotId : RowId} {where_ : Db -> LessonSlot -> Bool}
    {set_ : LessonSlot -> LessonSlot} {onError : Program} {next : Option LessonSlot -> Program}
    (revises : ∀ own old, where_ own old = true -> Revision old (set_ old))
    (failed : upkeep.Upholds store session upkeep.nothing onError)
    (missed : upkeep.Upholds store session known (next none))
    (went : ∀ db own old new, upkeep.View store session known db own -> old ∈ own.slots ->
      old.id = slotId -> where_ own old = true -> Revision old new ->
        ∃ learned, upkeep.knows session learned db ∧
          upkeep.Upholds store session learned (next (some new))) :
    upkeep.Upholds store session known (Program.updateSlot slotId where_ set_ onError next) := by
  have reached {own : Db} {versions : LessonSlot × LessonSlot}
      (update : own.slotUpdate slotId (where_ own) set_ = some versions) :
      versions.1 ∈ own.slots ∧ versions.1.id = slotId ∧ where_ own versions.1 = true ∧
        Revision versions.1 versions.2 := by
    rcases reached_of_slotUpdate update with ⟨member, key, chosen, made⟩
    exact ⟨member, key, chosen, made ▸ (revises own _ chosen).snapshot _⟩
  refine upholds_query failed fun db own _ => ?_
  split
  · exact missed
  · refine upholds_checked failed (fun db own view write listed => ?_) fun db own view => ?_
    · rcases List.mem_map.mp listed with ⟨versions, update, rfl⟩
      rcases reached (Option.mem_toList.mp update) with ⟨member, -, -, revision⟩
      exact lenient.revised view member revision
    · beta_reduce
      cases update : own.slotUpdate slotId (where_ own) set_ with
      | none => exact ⟨known, view.knows, missed⟩
      | some versions =>
        rcases reached update with ⟨member, key, chosen, revision⟩
        exact went db own _ _ view member key chosen revision

omit lenient in
theorem upholds_insertBookedSlot {row : LessonSlot} {next : LessonSlot -> Program}
    (ready : ∀ db own, upkeep.View store session known db own -> own.slot? row.id = none ->
      upkeep.may session db (.slot (.insert (row.snapshotOnBook own.catalog))))
    (went : ∀ slot, upkeep.Upholds store session known (next slot)) :
    upkeep.Upholds store session known (Program.insertBookedSlot row next) := by
  refine upholds_checkedOr trivial (fun _ => trivial) (fun db own view passed write listed => ?_)
    fun _ => went _
  rw [List.mem_singleton.mp listed]
  refine ready db own view ?_
  split at passed
  · cases passed
  · next free =>
    simp only [Bool.not_eq_true, Bool.or_eq_false_iff, Option.isSome_eq_false_iff,
      Option.isNone_iff_eq_none] at free
    exact free.1

theorem upholds_cancelWhere {now : Nat} {slotId cancelledByAccountId : RowId}
    {where_ : Db -> LessonSlot -> Bool} {cancelledAt : LessonSlot -> Nat} {reason : Option String}
    {actor : Actor} {restoreReason : String} {cancelled missed : Program}
    (went : upkeep.Upholds store session upkeep.nothing cancelled)
    (not : upkeep.Upholds store session upkeep.nothing missed) :
    upkeep.Upholds store session known (Program.cancelWhere now slotId where_ cancelledAt
      cancelledByAccountId reason actor restoreReason cancelled missed) :=
  upholds_updateSlot lenient (fun _ _ _ => ⟨rfl, rfl, rfl, rfl, rfl, Or.inl rfl⟩) trivial not
    fun _ _ _ _ view _ _ _ _ => ⟨known, view.knows,
      upholds_restorePackageConsumption lenient trivial fun _ => ⟨trivial, went⟩⟩

theorem upholds_cancelSlot (slotId cancelledByAccountId : RowId) (reason : Option String)
    (actor : Actor) : upkeep.Upholds store session known
      (Program.cancelSlot slotId cancelledByAccountId reason actor) := by
  unfold Program.cancelSlot
  split
  · trivial
  · refine upholds_query trivial fun _ _ _ => ?_
    split
    · trivial
    · exact upholds_query trivial fun _ _ _ => upholds_cancelWhere lenient trivial trivial

theorem upholds_cancelLearnerSlot (slotId learnerAccountId : RowId) (reason : Option String)
    (envFallbackMinutes : Nat) : upkeep.Upholds store session known
      (Program.cancelLearnerSlot slotId learnerAccountId reason envFallbackMinutes) := by
  unfold Program.cancelLearnerSlot
  split
  · trivial
  · refine upholds_query trivial fun _ _ _ => upholds_cancelWhere lenient trivial
      (upholds_query trivial fun _ _ _ => ?_)
    repeat' split
    all_goals trivial

theorem upholds_cancelSlotByTeacher (slotId teacherAccountId : RowId) (reason : Option String) :
    upkeep.Upholds store session known
      (Program.cancelSlotByTeacher slotId teacherAccountId reason) := by
  unfold Program.cancelSlotByTeacher
  split
  · trivial
  · refine upholds_query trivial fun _ _ _ => upholds_cancelWhere lenient trivial
      (upholds_query trivial fun _ _ _ => ?_)
    repeat' split
    all_goals trivial

omit lenient in
theorem upholds_classifyBookSlotFailure (input : Program.BookSlot) :
    upkeep.Upholds store session known (Program.classifyBookSlotFailure input) := by
  refine upholds_query trivial fun db own _ => ?_
  split
  · trivial
  · split
    · trivial
    · split
      · trivial
      · refine upholds_query trivial fun db own _ => ?_
        beta_reduce
        split
        · trivial
        · refine upholds_query trivial fun db own _ => ?_
          split <;> trivial

theorem upholds_bookSlot (input : Program.BookSlot) :
    upkeep.Upholds store session known (Program.bookSlot input) := by
  have reserved (now : Nat) {next : Option LessonSlot -> Program}
      (missed : upkeep.Upholds store session known (next none))
      (went : ∀ slot, upkeep.Upholds store session known (next (some slot))) :
      upkeep.Upholds store session known (Program.reserveSlot now input next) := by
    refine upholds_updateSlot lenient (fun own old chosen => ?_) trivial missed
      fun db own old new view _ _ _ _ => ⟨known, view.knows, went new⟩
    simp only [Program.bookable, Bool.and_eq_true, decide_eq_true_eq] at chosen
    exact ⟨rfl, rfl, rfl, rfl, rfl, Or.inr (by simp [chosen.1.1.1.1])⟩
  refine upholds_query trivial fun db own _ => ?_
  beta_reduce
  split
  · exact reserved _ (upholds_classifyBookSlotFailure input) fun _ => ⟨trivial, trivial⟩
  · refine upholds_locking trivial fun _ =>
      reserved _ (upholds_classifyBookSlotFailure input) fun slot => ?_
    refine upholds_query trivial fun _ _ _ => ?_
    split
    · trivial
    · refine upholds_query trivial fun _ _ _ => ?_
      split
      · trivial
      · refine upholds_consumePackageUnit lenient trivial fun consumed => ?_
        split
        · exact ⟨trivial, trivial⟩
        · refine upholds_query trivial fun _ _ _ => ?_
          split
          · trivial
          · split
            · trivial
            · exact ⟨trivial, trivial⟩

theorem upholds_billAssignedSlot (now : Nat) (input : Program.AssignSlotDirect)
    (slot : LessonSlot) :
    upkeep.Upholds store session known (Program.billAssignedSlot now input slot) := by
  have postpaid : upkeep.Upholds store session known (Program.assignPostpaid input slot) := by
    unfold Program.assignPostpaid
    extract_lets finish
    have finished : upkeep.Upholds store session known finish := by
      refine upholds_query trivial fun _ _ _ => ?_
      split
      · trivial
      · exact ⟨trivial, trivial⟩
    split
    · refine upholds_query trivial fun _ _ _ => ?_
      split
      · trivial
      · exact finished
    · exact finished
  unfold Program.billAssignedSlot
  split
  · exact postpaid
  · split
    · refine upholds_query trivial fun _ _ _ => ?_
      apply upholds_lockFirst
      · trivial
      intro pinned
      split
      · trivial
      · refine upholds_insertConsumption lenient trivial fun created => ?_
        split
        · exact ⟨trivial, trivial⟩
        · trivial
    · refine upholds_consumePackageUnit lenient trivial fun consumed => ?_
      split
      · exact ⟨trivial, trivial⟩
      · split
        · trivial
        · exact postpaid

theorem upholds_assignSlotDirect (input : Program.AssignSlotDirect)
    (ready : ∀ now startAt durationMinutes, input.startAt = some startAt ->
      positiveInteger (some input.durationMinutes) = some durationMinutes ->
      ∀ db own tariff, upkeep.View store session upkeep.nothing db own ->
        own.catalog.tariff input.tariffId = some tariff ->
        tariff.teacherId = some input.teacherAccountId ->
        tariff.durationMinutes = durationMinutes ->
          ∃ learned, upkeep.knows session learned db ∧ ∀ db own,
            upkeep.View store session learned db own -> own.slot? (.minted session 0) = none ->
              upkeep.may session db (.slot (.insert ((Program.bookedSlot (.minted session 0)
                input.teacherAccountId input.learnerAccountId.id startAt durationMinutes
                (some input.tariffId) now).snapshotOnBook own.catalog)))) :
    upkeep.Upholds store session upkeep.nothing (Program.assignSlotDirect session input) := by
  unfold Program.assignSlotDirect
  split
  · trivial
  · split
    · trivial
    · next durationMinutes checked =>
      have minutes := (Option.filter_eq_some_iff.mp checked).1
      split
      · trivial
      · split
        · trivial
        · next startAt given =>
          refine upholds_query trivial fun _ _ _ => ?_
          beta_reduce
          split
          · trivial
          · split
            · trivial
            · refine upholds_query trivial fun clock _ _ => upholds_locking trivial fun _ =>
                upholds_query trivial fun _ _ _ => ?_
              split
              · trivial
              · -- the tariff is looked at once
                refine ⟨trivial, fun db own view =>
                  ⟨fun _ listed => absurd listed List.not_mem_nil, ?_⟩⟩
                beta_reduce
                split
                · exact ⟨upkeep.nothing, view.knows, trivial⟩
                · next tariff found =>
                  split_ifs with teacher duration
                  · exact ⟨upkeep.nothing, view.knows, trivial⟩
                  · exact ⟨upkeep.nothing, view.knows, trivial⟩
                  · rcases ready clock.clock startAt durationMinutes given minutes db own tariff
                      view (Option.filter_eq_some_iff.mp found).1 (not_not.mp teacher)
                      (not_not.mp duration) with ⟨learned, knows, may⟩
                    refine ⟨learned, knows, upholds_query trivial fun _ _ _ => ?_⟩
                    split
                    · trivial
                    · exact upholds_insertBookedSlot may fun _ =>
                        upholds_billAssignedSlot lenient _ _ _

theorem upholds_moveSlot {now newStartAt : Nat} {oldSlot : LessonSlot} {learnerAccountId : RowId}
    {actor : Actor} {restoreReason : String}
    (ready : ∀ db own, upkeep.View store session known db own ->
      own.slot? (.minted session 0) = none ->
        upkeep.may session db (.slot (.insert ((Program.bookedSlot (.minted session 0)
          oldSlot.teacherAccountId learnerAccountId newStartAt oldSlot.durationMinutes
          oldSlot.tariffId now).snapshotOnBook own.catalog)))) : upkeep.Upholds store session known
      (Program.moveSlot session now oldSlot learnerAccountId newStartAt actor restoreReason) := by
  refine upholds_restorePackageConsumption lenient trivial fun _ =>
    upholds_query trivial fun _ _ _ => ?_
  split
  · trivial
  · refine upholds_insertBookedSlot ready fun slot => ?_
    extract_lets finish
    have finished : upkeep.Upholds store session known finish := ⟨trivial, trivial⟩
    split
    · exact finished
    · exact upholds_consumePackageUnit lenient trivial fun _ => finished

def Movable (upkeep : Upkeep Db Write Known) (session : Nat) (slotId : RowId)
    (newStartAt : Nat) : Prop :=
  ∀ known db own old, upkeep.View store session known db own -> old ∈ own.slots ->
    old.id = slotId -> old.status ≠ .cancelled ->
      ∃ learned, upkeep.knows session learned db ∧ ∀ db own learnerAccountId now,
        upkeep.View store session learned db own -> own.slot? (.minted session 0) = none ->
          upkeep.may session db (.slot (.insert ((Program.bookedSlot (.minted session 0)
            old.teacherAccountId learnerAccountId newStartAt old.durationMinutes old.tariffId
            now).snapshotOnBook own.catalog)))

theorem upholds_rescheduleSlotByLearner (slotId learnerAccountId : RowId)
    (newStartAt : Option Nat) (cancelWindowHours : Nat)
    (movable : ∀ startAt, newStartAt = some startAt -> Movable upkeep session slotId startAt) :
    upkeep.Upholds store session known (Program.rescheduleSlotByLearner session slotId
      learnerAccountId newStartAt cancelWindowHours) := by
  unfold Program.rescheduleSlotByLearner
  split
  · trivial
  · next startAt =>
    refine upholds_query trivial fun _ _ _ => ?_
    beta_reduce
    split
    · trivial
    · split
      · trivial
      · refine upholds_query trivial fun _ _ _ => upholds_locking trivial fun _ =>
          upholds_updateSlot lenient (fun _ _ _ => ⟨rfl, rfl, rfl, rfl, rfl, Or.inl rfl⟩) trivial
            (upholds_query trivial fun _ _ _ => ?_)
            fun db own old new view member key chosen revision => ?_
        · repeat' split
          all_goals trivial
        · simp only [Bool.and_eq_true, decide_eq_true_eq] at chosen
          rcases movable startAt rfl known db own old view member key
            (by simp [chosen.1.2]) with ⟨learned, knows, may⟩
          refine ⟨learned, knows, upholds_moveSlot lenient fun db own view fresh => ?_⟩
          rw [revision.teacherAccountId, revision.durationMinutes, revision.tariffId]
          exact may db own _ _ view fresh

theorem upholds_rescheduleSlotByTeacher (slotId teacherAccountId : RowId)
    (newStartAt : Option Nat) (reason : Option String)
    (movable : ∀ startAt, newStartAt = some startAt -> Movable upkeep session slotId startAt) :
    upkeep.Upholds store session known (Program.rescheduleSlotByTeacher session slotId
      teacherAccountId newStartAt reason) := by
  unfold Program.rescheduleSlotByTeacher
  extract_lets trimmedReason
  generalize jsLength trimmedReason = length
  split
  · trivial
  · split
    · trivial
    · next startAt =>
      refine upholds_query trivial fun _ _ _ => ?_
      beta_reduce
      split
      · trivial
      · split
        · trivial
        · refine upholds_query trivial fun _ _ _ =>
            upholds_updateSlot lenient (fun _ _ _ => ⟨rfl, rfl, rfl, rfl, rfl, Or.inl rfl⟩)
              trivial (upholds_query trivial fun _ _ _ => ?_)
              fun db own old new view member key chosen revision => ?_
          · repeat' split
            all_goals trivial
          · simp only [Bool.and_eq_true, decide_eq_true_eq] at chosen
            rcases movable startAt rfl known db own old view member key
              (by simp [chosen.2]) with ⟨learned, knows, may⟩
            refine ⟨learned, knows, ?_⟩
            dsimp only
            split
            · trivial
            · refine upholds_locking trivial fun _ => ?_
              refine upholds_moveSlot lenient fun db own view fresh => ?_
              rw [revision.teacherAccountId, revision.durationMinutes, revision.tariffId]
              exact may db own _ _ view fresh

end Upholds

end LevelChannel.Scheduling
