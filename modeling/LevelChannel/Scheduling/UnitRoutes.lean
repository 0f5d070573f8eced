import LevelChannel.Scheduling.UnitStatements

namespace LevelChannel.Scheduling
namespace HeldUnits

open ReadCommitted Tables

/-!
# The routes that move lessons, and their units

The routes that mark a lesson, change its mark or take it back need no following as far as
units go.  The ones that cancel are followed from the slot they take to the unit they give
back, and the ones that book from the slot they make to the unit they take.
-/

variable {takes : Nat -> Prop} {permits : Label -> Db -> Prop} {session : Nat}
  {held : List Lock} {pending : List Write} {db : Db}

theorem classifyBookSlotFailure_obeys (input : Program.BookSlot) :
    (discipline takes).Obeys session (Program.classifyBookSlotFailure input) := by
  apply Program.Obeys.query thrown_obeys
  intro committed _
  split
  · trivial
  split
  · trivial
  split
  · trivial
  apply Program.Obeys.dateNow thrown_obeys
  intro nowMs
  split
  · trivial
  apply Program.Obeys.query thrown_obeys
  intro _ _
  split <;> trivial

theorem billReservedSlot_safe {now : Nat} {input : Program.BookSlot} {slot : LessonSlot}
    (taking : takes session) (locked : WriteLocked held (.slot slot.id))
    (booked : slot.status = .booked) (start : (discipline takes).Stands session held pending
      (fun own => own.slot? slot.id = some slot) db) :
    (contract takes).Safe store permits session (Program.billReservedSlot now input slot)
      held pending db := by
  apply safe_query (local_slot locked slot) start
  intro _ _ stands
  split
  · exact Program.Safe.refused
  apply safe_query (local_slot locked slot) stands
  intro _ _ stands
  split
  · exact Program.Safe.refused
  refine safe_consumePackageUnit taking locked booked ?_ stands
  intro consumed
  split
  · exact commit_obeys _
  apply Program.Obeys.query thrown_obeys
  intro committed _
  split
  · trivial
  split
  · trivial
  · exact commit_obeys _

theorem bookSlot_safe (taking : takes session) (input : Program.BookSlot) (units : Held db) :
    (contract takes).Safe store permits session (Program.bookSlot input) [] [] db := by
  apply safe_begin units
  intro now units
  split
  · refine safe_afresh ?_ units
    refine updateSlot_obeys (fun _ => rfl) (fun _ _ _ _ => rfl) (fun _ _ _ _ => by simp) trivial ?_
    intro reserved
    split
    · exact commit_obeys _
    · exact classifyBookSlotFailure_obeys input
  · apply safe_lockLearner units
    intro now units
    refine safe_updateSlot local_true (fun _ => rfl) (fun _ => by simp)
      (Discipline.Stands.start units trivial) ?_ ?_
    · intro _ more units stands
      exact safe_tail units (classifyBookSlotFailure_obeys input) stands
    · intro now own old new _ unitsOwn _ found _ made key holds
      have booked : new.status = .booked := by rw [made, LessonSlot.snapshotOnBook_status]
      have read : own.slot? new.id = some old := key ▸ found
      have reserved : ∀ after, after = own.apply (.slot (.replace new)) ->
          Held after ∧ after.slot? new.id = some new := by
        rintro _ rfl
        exact ⟨heldExcept_replace read (fun _ _ => by rw [booked]; rfl) unitsOwn,
          (slot?_replace read _).trans (if_pos rfl)⟩
      exact billReservedSlot_safe taking (key ▸ WriteLocked.head_noKeyUpdate) booked
        (holds.weaken reserved)

theorem safe_insertBookedSlot {row : LessonSlot} {next : LessonSlot -> Program}
    (minted : row.id.minter.isSome) (booked : row.status = .booked)
    (start : (discipline takes).Stands session held pending (fun _ => True) db)
    (went : ∀ now new more, Held now -> new.status = .booked ->
      WriteLocked (more ++ held) (.slot new.id) ->
      (discipline takes).Stands session (more ++ held) (pending ++ [.slot (.insert new)])
        (fun own => own.slot? new.id = some new) now ->
      (contract takes).Safe store permits session (next new) (more ++ held)
        (pending ++ [.slot (.insert new)]) now) :
    (contract takes).Safe store permits session (Program.insertBookedSlot row next)
      held pending db := by
  refine Program.Safe.checkedOr _ (Discipline.Stands.stable local_true) start
    (fun _ _ _ => trivial) (fun _ _ _ _ => trivial) ?_
  intro now stands units accepted
  let own := store.applyAll now pending
  let new := row.snapshotOnBook own.catalog
  have id : new.id = row.id := row.snapshotOnBook_id own.catalog
  have status : new.status = .booked := (row.snapshotOnBook_status own.catalog).trans booked
  have fresh : own.slot? new.id = none := by
    rw [id]
    by_contra present
    have some_ : (own.slot? row.id).isSome := Option.isSome_iff_ne_none.mpr present
    simp [own, some_] at accepted
  have locked : WriteLocked ([(LockTarget.slot row.id).forUpdate,
      (LockTarget.slotStart row.teacherAccountId row.startAt).forUpdate] ++ held)
      (.slot new.id) := id ▸ WriteLocked.head_update
  have reads := slot?_insert fresh
  refine went now new _ units status locked ?_
  refine (Discipline.Holds.more stands _).queue
    ⟨⟨locked, id ▸ minted, fresh, by rw [status]; simp⟩, trivial⟩ ⟨?_, ?_⟩
  · intro slotId idle holding
    rcases stands.2.1 slotId idle holding with ⟨slot, read, priced⟩
    refine ⟨slot, (reads slotId).trans ?_, priced⟩
    rw [if_neg, read]
    rintro rfl
    rw [fresh] at read
    cases read
  · exact (reads new.id).trans (if_pos rfl)

theorem assignPostpaid_obeys (input : Program.AssignSlotDirect) (slot : LessonSlot) :
    (discipline takes).Obeys session (Program.assignPostpaid input slot) := by
  have finish : (discipline takes).Obeys session
      (Program.query Program.thrown fun _ own =>
        if own.catalog.paymentMethod input.teacherAccountId input.learnerAccountId.id = .none then
          Program.rollbackNotOk "payment_method_not_set"
        else .commit Program.thrown (.done (.returned "postpaid" [slot.id, input.tariffId]))) := by
    apply Program.Obeys.query thrown_obeys
    intro _ own
    split
    · trivial
    · exact commit_obeys _
  rw [Program.assignPostpaid]
  split
  · apply Program.Obeys.query thrown_obeys
    intro committed _
    split
    · trivial
    · exact finish
  · exact finish

theorem billAssignedSlot_safe {now : Nat} {input : Program.AssignSlotDirect} {slot : LessonSlot}
    (taking : takes session) (locked : WriteLocked held (.slot slot.id))
    (booked : slot.status = .booked) (units : Held db)
    (start : (discipline takes).Stands session held pending
      (fun own => own.slot? slot.id = some slot) db) :
    (contract takes).Safe store permits session (Program.billAssignedSlot now input slot)
      held pending db := by
  rw [Program.billAssignedSlot]
  split
  · exact safe_tail units (assignPostpaid_obeys input slot) start
  split
  · apply safe_query (local_slot locked slot) start
    intro _ units stands
    refine safe_lockFirst locked trivial ?_ units stands
    intro _ more purchase _ locked stands
    split
    · exact Program.Safe.refused
    · refine safe_insertConsumption taking locked booked ?_ stands
      intro created
      split
      · exact commit_obeys _
      · trivial
  · refine safe_consumePackageUnit taking locked booked ?_ start
    intro consumed
    split
    · exact commit_obeys _
    split
    · trivial
    · exact assignPostpaid_obeys input slot

theorem safe_check {next : Db -> Db -> Program} (units : Held db) (went : ∀ now, Held now ->
      (contract takes).Safe store permits session (next now now) held [] now) :
    (contract takes).Safe store permits session (Program.query Program.thrown next) held [] db :=
  safe_query local_true (Discipline.Stands.start units trivial) fun now units _ => went now units

theorem assignSlotDirect_safe (taking : takes session) (input : Program.AssignSlotDirect)
    (units : Held db) :
    (contract takes).Safe store permits session (Program.assignSlotDirect session input)
      [] [] db := by
  rw [Program.assignSlotDirect]
  split
  · trivial
  split
  · trivial
  split
  · trivial
  split
  · trivial
  apply safe_dateNow units
  intro now units
  split
  · trivial
  split
  · trivial
  apply safe_begin units
  intro now units
  apply safe_lockLearner units
  intro _ units
  apply safe_check units
  intro _ units
  split
  · exact Program.Safe.refused
  apply safe_check units
  intro _ units
  split
  · exact Program.Safe.refused
  split
  · exact Program.Safe.refused
  split
  · exact Program.Safe.refused
  apply safe_check units
  intro _ units
  split
  · exact Program.Safe.refused
  refine safe_insertBookedSlot rfl rfl (Discipline.Stands.start units trivial) ?_
  intro _ new more units booked locked stands
  exact billAssignedSlot_safe taking locked booked units stands

theorem moveSlot_safe {now newStartAt : Nat} {oldSlot : LessonSlot} {learnerAccountId : RowId}
    {actor : Actor} {restoreReason : String} (taking : takes session)
    (start : Working takes session held pending oldSlot.id db) :
    (contract takes).Safe store permits session
      (Program.moveSlot session now oldSlot learnerAccountId newStartAt actor restoreReason)
      held pending db := by
  refine safe_restorePackageConsumption ?_ start
  intro _ more _ units stands
  apply safe_query local_true stands
  intro _ units stands
  split
  · exact Program.Safe.refused
  refine safe_insertBookedSlot rfl rfl stands ?_
  intro _ new more units booked locked stands
  simp only
  split
  · exact safe_tail units (commit_obeys _) stands
  · exact safe_consumePackageUnit taking locked booked (fun _ => commit_obeys _) stands

theorem classifyCancelFailure_obeys (slotId learnerAccountId : RowId) :
    (discipline takes).Obeys session (Program.classifyCancelFailure slotId learnerAccountId) := by
  apply Program.Obeys.query thrown_obeys
  intro committed _
  split
  · trivial
  split
  · trivial
  split <;> trivial

theorem classifyTeacherCancelFailure_obeys (slotId teacherAccountId : RowId) :
    (discipline takes).Obeys session
      (Program.classifyTeacherCancelFailure slotId teacherAccountId) := by
  apply Program.Obeys.query thrown_obeys
  intro committed _
  split
  · trivial
  split <;> trivial

theorem rescheduleSlotByLearner_safe (taking : takes session) (slotId learnerAccountId : RowId)
    (newStartAt : Option Nat) (cancelWindowHours : Nat) (units : Held db) :
    (contract takes).Safe store permits session
      (Program.rescheduleSlotByLearner session slotId learnerAccountId newStartAt
        cancelWindowHours) [] [] db := by
  unfold Program.rescheduleSlotByLearner
  split
  · trivial
  apply safe_dateNow units
  intro now units
  split
  · trivial
  split
  · trivial
  apply safe_begin units
  intro now units
  apply safe_lockLearner units
  intro _ units
  refine safe_updateSlot local_true (fun _ => rfl) (fun _ => by simp)
    (Discipline.Stands.start units trivial) ?_ ?_
  · intro _ more units stands
    exact safe_tail units (classifyCancelFailure_obeys slotId learnerAccountId) stands
  · intro _ own old new _ unitsOwn _ found _ _ key holds
    subst key
    exact moveSlot_safe taking (working_of_cancelled unitsOwn found rfl holds)

theorem rescheduleSlotByTeacher_safe (taking : takes session) (slotId teacherAccountId : RowId)
    (newStartAt : Option Nat) (reason : Option String) (units : Held db) :
    (contract takes).Safe store permits session
      (Program.rescheduleSlotByTeacher session slotId teacherAccountId newStartAt reason)
      [] [] db := by
  unfold Program.rescheduleSlotByTeacher
  extract_lets trimmedReason
  generalize jsLength trimmedReason = length
  split
  · exact True.intro
  split
  · exact True.intro
  apply safe_dateNow units
  intro now units
  split
  · trivial
  split
  · trivial
  apply safe_begin units
  intro now units
  refine safe_updateSlot local_true (fun _ => rfl) (fun _ => by simp)
    (Discipline.Stands.start units trivial) ?_ ?_
  · intro _ more units stands
    exact safe_tail units (classifyTeacherCancelFailure_obeys slotId teacherAccountId) stands
  · intro _ own old new _ unitsOwn _ found _ _ key holds
    subst key
    have works := working_of_cancelled unitsOwn found rfl holds
    simp only
    split
    · exact Program.Safe.refused
    · refine Program.Safe.locking _ Working.stable works (fun _ _ _ => trivial) ?_
      intro _ works _
      exact moveSlot_safe taking (Discipline.Holds.more works [_])

/-! ## Cancelling -/

theorem cancelWhere_safe {now : Nat} {slotId cancelledByAccountId : RowId}
    {where_ : Db -> LessonSlot -> Bool} {cancelledAt : LessonSlot -> Nat} {reason : Option String}
    {actor : Actor} {restoreReason : String} {cancelled missed : Program}
    (went : (discipline takes).Obeys session cancelled)
    (not : (discipline takes).Obeys session missed) (units : Held db) :
    (contract takes).Safe store permits session
      (Program.cancelWhere now slotId where_ cancelledAt cancelledByAccountId reason actor
        restoreReason cancelled missed) [] [] db := by
  refine safe_updateSlot local_true (fun _ => rfl) (fun _ => by simp)
    (Discipline.Stands.start units trivial) ?_ ?_
  · intro _ more units stands
    exact safe_tail units not stands
  · intro _ own old new _ unitsOwn _ found _ _ key holds
    refine safe_restorePackageConsumption ?_ (working_of_cancelled unitsOwn found key holds)
    intro _ more _ units stands
    exact safe_tail units ⟨thrown_obeys, went⟩ stands

theorem cancelSlot_safe (slotId cancelledByAccountId : RowId) (reason : Option String)
    (actor : Actor) (units : Held db) : (contract takes).Safe store permits session
      (Program.cancelSlot slotId cancelledByAccountId reason actor) [] [] db := by
  unfold Program.cancelSlot
  generalize reasonTooLong reason = long
  split
  · exact True.intro
  apply safe_check units
  intro _ units
  split
  · exact True.intro
  exact safe_begin units fun _ units => cancelWhere_safe True.intro True.intro units

theorem classifyLearnerCancel_obeys (slotId learnerAccountId : RowId) :
    (discipline takes).Obeys session (Program.classifyLearnerCancel slotId learnerAccountId) := by
  apply Program.Obeys.query thrown_obeys
  intro committed _
  split
  · exact True.intro
  split
  · exact True.intro
  split
  · exact True.intro
  split <;> exact True.intro

theorem cancelLearnerSlot_safe (slotId learnerAccountId : RowId) (reason : Option String)
    (envFallbackMinutes : Nat) (units : Held db) : (contract takes).Safe store permits session
      (Program.cancelLearnerSlot slotId learnerAccountId reason envFallbackMinutes) [] [] db := by
  unfold Program.cancelLearnerSlot
  generalize reasonTooLong reason = long
  split
  · exact True.intro
  exact safe_begin units fun _ units =>
    cancelWhere_safe True.intro (classifyLearnerCancel_obeys slotId learnerAccountId) units

theorem classifyTeacherCancel_obeys (slotId teacherAccountId : RowId) (reason : Option String) :
    (discipline takes).Obeys session
      (Program.classifyTeacherCancel slotId teacherAccountId reason) := by
  apply Program.Obeys.query thrown_obeys
  intro committed _
  split
  · exact True.intro
  split
  · exact True.intro
  split
  · exact True.intro
  split <;> exact True.intro

theorem cancelSlotByTeacher_safe (slotId teacherAccountId : RowId) (reason : Option String)
    (units : Held db) : (contract takes).Safe store permits session
      (Program.cancelSlotByTeacher slotId teacherAccountId reason) [] [] db := by
  unfold Program.cancelSlotByTeacher
  generalize reasonTooLong reason = long
  split
  · exact True.intro
  exact safe_begin units fun _ units =>
    cancelWhere_safe True.intro (classifyTeacherCancel_obeys slotId teacherAccountId reason) units

theorem transitionPersonalEvent_safe (slotId teacherAccountId : RowId)
    (cancellationReason : Option (Option String)) (units : Held db) :
    (contract takes).Safe store permits session
      (Program.transitionPersonalEvent slotId teacherAccountId cancellationReason) [] [] db := by
  apply safe_begin units
  intro at_ units
  refine Program.Safe.locking _ (Discipline.Stands.stable local_true)
    (Discipline.Stands.start units trivial) (fun _ _ _ => trivial) ?_
  intro now stands units
  split
  · exact Program.Safe.refused
  rename_i row read
  split
  · exact Program.Safe.refused
  split
  · exact Program.Safe.refused
  rename_i event
  have status : row.status = .personalEvent := by
    by_contra other
    exact event (Or.inr other)
  have locked : WriteLocked ([(LockTarget.slot slotId).forUpdate] ++ []) (.slot slotId) :=
    WriteLocked.head_update
  have wider := Discipline.Holds.more stands [(LockTarget.slot slotId).forUpdate]
  refine safe_updateSlot (local_slot locked row) ?_ ?_ ⟨wider.1, wider.2.1, read⟩ ?_ ?_
  · intro slot
    split <;> rfl
  · intro slot
    split <;> simp
  · intro _ more units stands
    exact safe_tail units (commit_obeys _) stands
  · intro _ own old new units unitsOwn read found _ _ key holds
    have same : old = row := Option.some.inj (found.symm.trans read)
    have plain : old.status.priced = false := by
      rw [same, status]
      rfl
    have still : ∀ after, after = own.apply (.slot (.replace new)) ->
        Held after ∧ True := by
      rintro _ rfl
      refine ⟨heldExcept_replace (key ▸ found) (fun _ was => ?_) unitsOwn, trivial⟩
      rw [plain] at was
      cases was
    exact safe_tail units (commit_obeys _) (holds.weaken still)

theorem lawful_completion {locks : List Lock} {own : Db} {slotId : RowId} {aside : List Write}
    {where_ : LessonSlot -> Bool} {set_ : LessonSlot -> LessonSlot} (idle : ¬ takes session)
    (elsewhere : ∀ write, write ∈ aside -> write.table = .erasures ∨
      ∃ change, write = .completion change ∧ WriteLocked locks (.completion change.row.id))
    (locked : WriteLocked locks (.slot slotId)) (id : ∀ slot, (set_ slot).id = slot.id)
    (priced : ∀ slot, (set_ slot).status.priced = true) :
    (discipline takes).Lawful session locks own
      (aside ++ slotUpdateWrites (own.slotUpdate slotId where_ set_)) := by
  refine lawful_update ?_ ?_ locked id (fun slot _ _ => priced slot)
    (fun taking => absurd taking idle)
  · intro more wider
    refine Fits.of_pairwise ?_ ?_
    · refine List.pairwise_of_forall_mem_list fun _ _ second member db _ _ => ?_
      rcases elsewhere second member with table | ⟨change, rfl, own⟩
      · exact Aside.allowed (by simp [Aside, table])
      · exact own.mono wider
    · intro write member
      rcases elsewhere write member with table | ⟨change, rfl, own⟩
      · exact Aside.allowed (by simp [Aside, table])
      · exact own.mono wider
  · clear id priced locked
    induction aside generalizing own with
    | nil => exact ⟨rfl, rfl⟩
    | cons write rest extend =>
      have later := @extend (own.apply write) fun other member =>
        elsewhere other (List.mem_cons_of_mem _ member)
      rw [Store.applyAll_cons, store_apply, later.1, later.2]
      rcases elsewhere write List.mem_cons_self with table | ⟨change, rfl, -⟩
      · cases write <;> first | exact ⟨rfl, rfl⟩ | cases table
      · exact ⟨rfl, rfl⟩

theorem insertCompletion_lawful {at_ : Nat} {row : LessonCompletion} (idle : ¬ takes session)
    (own : Db) : (discipline takes).Lawful session (Program.insertCompletionLocks row) own
      (.completion (.insert row) :: slotUpdateWrites (own.completionApply at_ row)) := by
  have priced : ∀ slot : LessonSlot, ({ slot with
      status := outcomeStatus row.wasNoShow
      updatedAt := at_ } : LessonSlot).status.priced = true := by
    intro slot
    cases row.wasNoShow <;> rfl
  refine @lawful_completion _ _ _ _ _ [.completion (.insert row)] _ _ idle ?_ ?_ (fun _ => rfl)
    priced
  · intro write member
    rw [List.mem_singleton.mp member]
    exact Or.inr ⟨_, rfl, WriteLocked.head_update⟩
  · exact ⟨(LockTarget.slot row.slotId).forNoKeyUpdate, by simp [Program.insertCompletionLocks],
      rfl, Or.inl rfl⟩

theorem insertCompletion_obeys {at_ : Nat} {row : LessonCompletion} {next : Program}
    (idle : ¬ takes session) (went : (discipline takes).Obeys session next) :
    (discipline takes).Obeys session (Program.insertCompletion at_ row Program.thrown next) :=
  Program.Obeys.checked thrown_obeys (fun own _ => insertCompletion_lawful idle own) fun _ => went

theorem insertCompletionIfAbsent_obeys {at_ : Nat} {row : LessonCompletion}
    {next : Bool -> Program} (idle : ¬ takes session)
    (went : ∀ created, (discipline takes).Obeys session (next created)) :
    (discipline takes).Obeys session
      (Program.insertCompletionIfAbsent at_ row Program.thrown next) := by
  refine Program.Obeys.checked thrown_obeys ?_ fun _ => went _
  intro own _
  split
  · exact Discipline.Lawful.nothing _ _
  · exact insertCompletion_lawful idle own

theorem safe_deleteCompletion {begunAt judgedAt : Nat} {row : LessonCompletion}
    {onError next : Program} {onRaise : String -> Program} (idle : ¬ takes session)
    (locked : WriteLocked held (.completion row.id))
    (failed : (discipline takes).Obeys session onError)
    (raised : ∀ message, (discipline takes).Obeys session (onRaise message))
    (went : (discipline takes).Obeys session next)
    (start : (discipline takes).Stands session held pending
      (fun own => own.completion? row.id = some row) db) :
    (contract takes).Safe store permits session
      (Program.deleteCompletion begunAt judgedAt row onError onRaise next) held pending db := by
  refine Program.Safe.checkedOr _ (Discipline.Stands.stable (local_completion locked (some row)))
    start (fun _ _ units => safe_afresh failed units)
    (fun message _ _ units => safe_afresh (raised message) units) ?_
  intro now stands units _
  simp only [stands.2.2]
  refine safe_tail units went (stands.onward ?_)
  refine @lawful_completion _ _ _ _ _
    [.erasure ⟨row, begunAt, judgedAt⟩, .completion (.delete row)] _ _ idle ?_ ?_ (fun _ => rfl)
    (fun _ => rfl)
  · intro write member
    rcases List.mem_cons.mp member with rfl | member
    · exact Or.inl rfl
    · rw [List.mem_singleton.mp member]
      exact Or.inr ⟨_, rfl, WriteLocked.head_update⟩
  · exact ⟨(LockTarget.slot row.slotId).forNoKeyUpdate, by simp, rfl, Or.inl rfl⟩

theorem sniffMarkFailure_obeys {slotId : RowId} {next : String -> Program}
    (went : ∀ reason, (discipline takes).Obeys session (next reason)) :
    (discipline takes).Obeys session (Program.sniffMarkFailure slotId next) := by
  apply Program.Obeys.query thrown_obeys
  intro committed _
  split
  · exact went _
  · split <;> exact went _

theorem markBillable_obeys {slotId actorAccountId : RowId} {wasNoShow : Bool}
    {next : String -> Program} (idle : ¬ takes session)
    (went : ∀ reason, (discipline takes).Obeys session (next reason)) :
    (discipline takes).Obeys session
      (Program.markBillable session slotId wasNoShow actorAccountId next) := by
  apply Program.Obeys.begin thrown_obeys
  intro at_
  apply Program.Obeys.query thrown_obeys
  intro _ own
  split
  · exact went _
  rename_i slotInfo _
  have marked : (discipline takes).Obeys session
      (Program.updateSlot slotId (fun _ _ => true)
        (fun row => { row with
          markedAt := some (row.markedAt.getD at_)
          updatedAt := at_ })
        Program.thrown fun updated =>
          .commit Program.thrown (next (if updated.isSome then "ok" else "not_found"))) :=
    updateSlot_obeys (fun _ => rfl) (fun _ _ _ was => was) (fun taking => absurd taking idle)
      thrown_obeys fun _ => ⟨thrown_obeys, went _⟩
  apply Program.Obeys.locking thrown_obeys
  intro own
  split
  · exact went _
  split
  · exact went _
  split
  · apply Program.Obeys.query thrown_obeys
    intro _ own
    split
    · exact marked
    · exact went _
  split
  · exact went _
  apply Program.Obeys.dateNow thrown_obeys
  intro nowMs
  split
  · exact went _
  split
  · exact went _
  apply insertCompletionIfAbsent_obeys idle
  intro created
  split
  · exact marked
  apply Program.Obeys.query thrown_obeys
  intro _ own
  split
  · exact went _
  · exact marked

theorem markSlotLifecycleThen_obeys {slotId actorAccountId : RowId} {status : SlotLifecycleStatus}
    {next : String -> Program} (idle : ¬ takes session)
    (went : ∀ reason, (discipline takes).Obeys session (next reason)) :
    (discipline takes).Obeys session
      (Program.markSlotLifecycleThen session slotId status actorAccountId next) := by
  cases status with
  | noShowTeacher =>
    unfold Program.markSlotLifecycleThen
    apply Program.Obeys.begin thrown_obeys
    intro at_
    refine updateSlot_obeys (fun _ => rfl) (fun _ _ _ _ => rfl) (fun taking => absurd taking idle)
      thrown_obeys fun updated => ⟨thrown_obeys, ?_⟩
    split
    · exact went _
    · exact sniffMarkFailure_obeys went
  | completed => exact markBillable_obeys idle went
  | noShowLearner => exact markBillable_obeys idle went

theorem markSlotByTeacher_obeys (idle : ¬ takes session) (slotId teacherAccountId : RowId)
    (status : SlotLifecycleStatus) : (discipline takes).Obeys session
      (Program.markSlotByTeacher session slotId teacherAccountId status) := by
  apply Program.Obeys.query thrown_obeys
  intro committed _
  split
  · trivial
  split
  · trivial
  · exact markSlotLifecycleThen_obeys idle fun _ => trivial

theorem setWasNoShow_obeys {completionId : RowId} {wasNoShow : Bool} {next : Program}
    (went : (discipline takes).Obeys session next) :
    (discipline takes).Obeys session (Program.setWasNoShow completionId wasNoShow next) := by
  refine Program.Obeys.execute thrown_obeys ?_ fun _ => went
  intro own
  split
  · exact Discipline.Lawful.nothing _ _
  rename_i row found
  have key : row.id = completionId := key_of_get found
  intro units more wider
  have locked : WriteLocked more (.completion completionId) :=
    WriteLocked.head_noKeyUpdate.mono wider
  exact ⟨⟨key ▸ locked, trivial⟩, units⟩

theorem applyLessonChainInTx_safe {now : Nat} {chain : Program.LessonChain} {next : Program}
    (idle : ¬ takes session)
    (locked : ∀ row, chain.completionRow = some row -> WriteLocked held (.completion row.id))
    (went : (discipline takes).Obeys session next) (units : Held db)
    (start : (discipline takes).Stands session held pending (fun own =>
      ∀ row : { row // chain.completionRow = some row },
        own.completion? row.1.id = some row.1) db) : (contract takes).Safe store permits session
      (Program.applyLessonChainInTx session now chain Program.rollbackNotOk next)
      held pending db := by
  have tail : ∀ {program : Program}, (discipline takes).Obeys session program ->
      (contract takes).Safe store permits session program held pending db :=
    fun obeys => safe_tail units obeys start
  have delete : ∀ {next : Program} (row : LessonCompletion),
      chain.completionRow = some row -> (discipline takes).Obeys session next ->
      (contract takes).Safe store permits session
        (Program.deleteCompletion now chain.judgedAt row Program.thrown
          (fun message => .done (.thrown message)) next) held pending db :=
    fun row known went => safe_deleteCompletion idle (locked row known) thrown_obeys
      (fun _ => trivial) went (start.weaken fun _ both => ⟨both.1, both.2 ⟨row, known⟩⟩)
  have keep : (discipline takes).Obeys session (Program.setSlot chain.slotId
      (fun row => { row with markedAt := some (row.markedAt.getD now) }) next) :=
    setSlot_obeys idle (fun _ => rfl) (fun _ was => was) went
  have complete : (discipline takes).Obeys session (Program.insertCompletion now
      (Program.chainCompletion session now chain) Program.thrown
      (Program.setSlot chain.slotId
        (fun row => { row with markedAt := some (row.markedAt.getD now) }) next)) :=
    insertCompletion_obeys idle keep
  have status : ∀ {set_ : LessonSlot -> LessonSlot} {next : Program},
      (∀ slot, (set_ slot).id = slot.id) -> (∀ slot, (set_ slot).status.priced = true) ->
      (discipline takes).Obeys session next ->
      (discipline takes).Obeys session (Program.setSlot chain.slotId set_ next) :=
    fun id priced went => setSlot_obeys idle id (fun slot _ => priced slot) went
  unfold Program.applyLessonChainInTx
  extract_lets keepMarkedAt missingSnapshot
  split
  · split
    · exact Program.Safe.refused
    · exact tail (setWasNoShow_obeys (status (fun _ => rfl) (fun _ => rfl) went))
  · split
    · exact Program.Safe.refused
    · exact tail (setWasNoShow_obeys (status (fun _ => rfl) (fun _ => rfl) went))
  · split
    · exact Program.Safe.refused
    · exact delete _ ‹_› went
  · split
    · exact Program.Safe.refused
    · exact delete _ ‹_› went
  · split
    · exact Program.Safe.refused
    · exact delete _ ‹_› (status (fun _ => rfl) (fun _ => rfl) went)
  · split
    · exact Program.Safe.refused
    · exact delete _ ‹_› (status (fun _ => rfl) (fun _ => rfl) went)
  · split
    · exact Program.Safe.refused
    · exact tail complete
  · split
    · exact Program.Safe.refused
    · exact tail complete
  · exact tail (status (fun _ => rfl) (fun _ => rfl) went)
  · exact tail (status (fun _ => rfl) (fun _ => rfl) went)
  · split
    · exact Program.Safe.refused
    · exact tail (status (fun _ => rfl) (fun _ => rfl) complete)
  · split
    · exact Program.Safe.refused
    · exact tail (status (fun _ => rfl) (fun _ => rfl) complete)
  · exact Program.Safe.refused

theorem judgedChain_safe {now : Nat} {chain : Program.LessonChain} (idle : ¬ takes session)
    (locked : ∀ row, chain.completionRow = some row -> WriteLocked held (.completion row.id))
    (units : Held db)
    (start : (discipline takes).Stands session held pending (fun own =>
      ∀ row : { row // chain.completionRow = some row },
        own.completion? row.1.id = some row.1) db) :
    (contract takes).Safe store permits session (judgedChain session now chain)
      held pending db := by
  have loc := Discipline.Local.all fun row : { row // chain.completionRow = some row } =>
    @local_completion takes session held row.1.id (locked row.1 row.2) (some row.1)
  have finishes : ∀ {db}, Held db ->
      (discipline takes).Stands session held pending (fun own =>
        ∀ row : { row // chain.completionRow = some row },
          own.completion? row.1.id = some row.1) db ->
      (contract takes).Safe store permits session
        (Program.applyLessonChainInTx session now chain Program.rollbackNotOk
          (Program.setSlot chain.slotId (fun slot => { slot with updatedAt := now })
            (.commit Program.thrown (Program.notOk "ok")))) held pending db :=
    fun units stands => applyLessonChainInTx_safe idle locked
      (setSlot_obeys idle (fun _ => rfl) (fun _ was => was) (commit_obeys _)) units stands
  unfold judgedChain
  extract_lets finish
  split
  · exact finishes units start
  split
  · exact Program.Safe.refused
  apply safe_query loc start
  intro _ units stands
  split
  · exact Program.Safe.refused
  apply safe_query loc stands
  intro _ units stands
  split
  · exact Program.Safe.refused
  · exact finishes units stands

theorem changeLockedLesson_safe {now expectedUpdatedAt : Nat} {slotId teacherAccountId : RowId}
    {toStatus : LessonTargetStatus} (idle : ¬ takes session) (units : Held db) :
    (contract takes).Safe store permits session
      (Program.changeLockedLesson session now slotId teacherAccountId toStatus expectedUpdatedAt)
      held [] db := by
  refine Program.Safe.locking _ (Discipline.Stands.stable local_true)
    (Discipline.Stands.start units trivial) (fun _ _ _ => trivial) ?_
  intro _ _ units
  split
  · exact Program.Safe.refused
  rename_i slot _
  split
  · exact Program.Safe.refused
  apply safe_check units
  intro _ units
  beta_reduce
  split
  · exact Program.Safe.refused
  split
  · exact Program.Safe.refused
  apply safe_check units
  intro _ units
  extract_lets relooked completionLocks
  refine Program.Safe.locking _ (Discipline.Stands.stable local_true)
    (Discipline.Stands.start units trivial) (fun _ _ _ => trivial) ?_
  intro found _ units
  let own := store.applyAll found []
  let completionRow := relooked.bind fun row =>
    (own.completion? row.id).filter fun row => row.slotId = slotId
  have placed : ∀ row, completionRow = some row -> own.completion? row.id = some row := by
    intro row same
    rcases relooked_eq_some same with ⟨-, -, -, read, -⟩
    exact read
  have locked : ∀ row, completionRow = some row ->
      WriteLocked (completionLocks ++ ([(LockTarget.slot slotId).forUpdate] ++ held))
        (.completion row.id) := by
    intro row same
    rcases relooked_eq_some same with ⟨original, before, key, -⟩
    rw [← key, show completionLocks = [(LockTarget.completion original.id).forUpdate] by
      simp only [completionLocks, before]]
    exact WriteLocked.head_update
  refine safe_query (Discipline.Local.all fun row : { row // completionRow = some row } =>
    local_completion (locked row.1 row.2) (some row.1)) ?_ ?_
  · exact Discipline.Stands.start units fun row => placed row.1 row.2
  · intro judging units stands
    let chain : Program.LessonChain :=
      { slotId := slotId
        teacherId := teacherAccountId
        tariffId := slot.tariffId
        snapshotAmountKopecks := slot.snapshotAmountKopecks
        completedAt := slot.endAt
        fromStatus := slot.status
        toStatus := toStatus
        completionRow := completionRow
        judgedAt := judging.clock }
    exact @judgedChain_safe takes permits session _ [] judging now chain idle locked units stands

theorem changeLessonStatus_safe (idle : ¬ takes session) (slotId teacherAccountId : RowId)
    (toStatus : LessonTargetStatus) (expectedUpdatedAt : Nat) (units : Held db) :
    (contract takes).Safe store permits session
      (Program.changeLessonStatus session slotId teacherAccountId toStatus expectedUpdatedAt)
      [] [] db := by
  apply safe_begin units
  intro at_ units
  apply safe_check units
  intro _ units
  split
  · exact Program.Safe.refused
  split
  · exact Program.Safe.refused
  split
  · exact Program.Safe.refused
  split
  · exact Program.Safe.refused
  split
  · exact Program.Safe.refused
  apply safe_lockLearner units
  intro _ units
  exact changeLockedLesson_safe idle units

theorem uncomplete_safe (idle : ¬ takes session) (teacherAccountId completionId : RowId)
    (units : Held db) : (contract takes).Safe store permits session
      (Program.uncomplete teacherAccountId completionId) [] [] db := by
  have nothing : (contract takes).Stable store session [] ((discipline takes).Stands session [] []
      fun _ => True) := Discipline.Stands.stable local_true
  unfold Program.uncomplete
  extract_lets onError refuse
  refine Program.Safe.begin _ nothing (Discipline.Stands.start units trivial)
    (fun _ _ _ => trivial) ?_
  intro begun _ units
  refine Program.Safe.locking _ nothing (Discipline.Stands.start units trivial)
    (fun _ _ _ => trivial) ?_
  intro now _ units
  split
  · exact Program.Safe.refused
  rename_i row read
  split
  · exact Program.Safe.refused
  have key : row.id = completionId := key_of_get read
  subst key
  have locked : WriteLocked ([(LockTarget.completion row.id).forUpdate] ++ [])
      (.completion row.id) := WriteLocked.head_update
  have stable : (contract takes).Stable store session _ ((discipline takes).Stands session _ []
      fun own => own.completion? row.id = some row) :=
    Discipline.Stands.stable (local_completion locked (some row))
  refine Program.Safe.query _ stable (Discipline.Stands.start units read)
    (fun _ _ _ => trivial) ?_
  intro _ stands _
  beta_reduce
  split
  · exact Program.Safe.refused
  refine Program.Safe.query _ stable stands (fun _ _ _ => trivial) ?_
  intro _ stands _
  split
  · exact Program.Safe.refused
  refine Program.Safe.query _ stable stands (fun _ _ _ => trivial) ?_
  intro _ stands _
  split
  · exact Program.Safe.refused
  refine safe_deleteCompletion idle locked trivial ?_ ⟨trivial, trivial⟩ stands
  intro message
  unfold Program.uncompleteRaised
  split
  · trivial
  split
  · trivial
  split <;> trivial

end HeldUnits
end LevelChannel.Scheduling
