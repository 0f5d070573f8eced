import LevelChannel.Scheduling.Units

namespace LevelChannel.Scheduling

open ReadCommitted Tables

/-!
# The booking routes

Each of the four is followed from the slot it reserves to the unit it takes.  Only the
route that creates a booked slot for a learner takes the learner's id as text from the
client, so only it needs the premise on spelling.
-/

variable {terms : Terms} {permits : Label -> Db -> Prop} {session : Nat} {held : List Lock}
  {pending : List Write} {db : Db}

theorem reserve_tidies {now : Nat} {input : Program.BookSlot} {own : Db} {old : LessonSlot}
    (good : Good terms own) (found : own.slot? old.id = some old)
    (chosen : Program.bookable now input own old = true) :
    Tidies own old { old with
      status := .booked
      learnerAccountId := some input.learnerAccountId
      updatedAt := now } := by
  simp only [Program.bookable, Bool.and_eq_true, decide_eq_true_eq] at chosen
  have status : old.status = .open := chosen.1.1.1.1
  refine ⟨rfl, ⟨rfl, rfl, Or.inl status, fun reopened => by cases reopened⟩, ?_⟩
  intro lesson
  exact (recorded_of_status good found lesson (by rw [status]; rfl)).symm

theorem classifyBookSlotFailure_obeys (input : Program.BookSlot) :
    (discipline terms).Obeys session (Program.classifyBookSlotFailure input) := by
  apply Program.Obeys.query thrown_obeys
  intro committed _
  split
  · trivial
  · split
    · trivial
    · split
      · trivial
      · apply Program.Obeys.dateNow thrown_obeys
        intro nowMs
        split
        · trivial
        · apply Program.Obeys.query thrown_obeys
          intro _ _
          split <;> trivial

theorem billReservedSlot_safe {now : Nat} {input : Program.BookSlot} {slot : LessonSlot}
    (reserved : Reserved terms held slot input.learnerAccountId)
    (start : (discipline terms).Stands session held pending
      (fun own => own.slot? slot.id = some slot) db) :
    (contract terms).Safe store permits session (Program.billReservedSlot now input slot)
      held pending db := by
  have stable : (contract terms).Stable store session held
      ((discipline terms).Stands session held pending fun own => own.slot? slot.id = some slot) :=
    Discipline.Stands.stable (local_slot reserved.locked slot)
  refine Program.Safe.query _ stable start (fun _ _ _ => trivial) ?_
  intro now stands good
  split
  · exact Program.Safe.refused
  · refine Program.Safe.query _ stable stands (fun _ _ _ => trivial) ?_
    intro now stands good
    split
    · exact Program.Safe.refused
    · refine safe_consumePackageUnit reserved rfl rfl thrown_obeys ?_ stands
      intro consumed
      split
      · exact commit_obeys _
      · apply Program.Obeys.query thrown_obeys
        intro committed _
        split
        · trivial
        · split
          · trivial
          · exact commit_obeys _

theorem bookSlot_safe (input : Program.BookSlot) (good : Good terms db) :
    (contract terms).Safe store permits session (Program.bookSlot input) [] [] db := by
  apply safe_begin good
  intro now good
  split
  · refine safe_afresh ?_ good
    refine updateSlot_obeys (fun own old good found chosen => reserve_tidies good found chosen)
      thrown_obeys fun reserved => ?_
    split
    · exact commit_obeys _
    · exact classifyBookSlotFailure_obeys input
  · apply safe_lockLearner (Discipline.Stands.start good trivial)
    intro now good stands
    refine safe_updateSlot (Discipline.Local.const (discipline terms) session _ True) stands
      (fun own old good _ found _ chosen => reserve_tidies good found chosen)
      (fun _ _ => trivial) ?_ ?_
    · intro now _ more good _ _ stands
      exact safe_tail good (classifyBookSlotFailure_obeys input) stands
    · intro now own old new good goodOwn _ found chosen made stands
      have key : new.id = input.slotId := by
        rw [made, LessonSlot.snapshotOnBook_id]
        exact (key_of_get found : old.id = input.slotId)
      rw [← key] at stands ⊢
      refine billReservedSlot_safe ⟨WriteLocked.head_noKeyUpdate, ?_, ?_, ?_⟩ stands
      · rw [made, LessonSlot.snapshotOnBook_status]
        simp
      · rw [made, snapshotOnBook_learnerAccountId]
      · intro _
        exact WriteLocked.of_mem (List.mem_cons_of_mem _ List.mem_cons_self)

theorem safe_insertBookedSlot {row : LessonSlot} {next : LessonSlot -> Program}
    (minted : row.id.minter.isSome) (booked : row.status = .booked)
    (start : (discipline terms).Stands session held pending (fun _ => True) db)
    (went : ∀ now new, Good terms now -> new.id = row.id -> new.status = .booked ->
      new.learnerAccountId = row.learnerAccountId -> new.teacherAccountId = row.teacherAccountId ->
      new.durationMinutes = row.durationMinutes -> (discipline terms).Stands session
        ([(LockTarget.slot row.id).forUpdate,
          (LockTarget.slotStart row.teacherAccountId row.startAt).forUpdate] ++ held)
        (pending ++ [.slot (.insert new)]) (fun own => own.slot? new.id = some new) now ->
      (contract terms).Safe store permits session (next new) ([(LockTarget.slot row.id).forUpdate,
          (LockTarget.slotStart row.teacherAccountId row.startAt).forUpdate] ++ held)
        (pending ++ [.slot (.insert new)]) now) :
    (contract terms).Safe store permits session (Program.insertBookedSlot row next)
      held pending db := by
  refine Program.Safe.checkedOr _
    (Discipline.Stands.stable (Discipline.Local.const (discipline terms) session held True))
    start (fun _ _ _ => trivial) (fun _ _ _ _ => trivial) ?_
  intro now stands good accepted
  let own := store.applyAll now pending
  let new := row.snapshotOnBook own.catalog
  have id : new.id = row.id := row.snapshotOnBook_id own.catalog
  have fresh : own.slot? new.id = none := by
    rw [id]
    by_contra present
    have some_ : (own.slot? row.id).isSome := Option.isSome_iff_ne_none.mpr present
    simp [own, some_] at accepted
  have status : new.status = .booked := (row.snapshotOnBook_status own.catalog).trans booked
  have lawful : (discipline terms).Lawful session
      [(LockTarget.slot row.id).forUpdate,
        (LockTarget.slotStart row.teacherAccountId row.startAt).forUpdate] own
      [.slot (.insert new)] :=
    insertBookedSlot_lawful (id ▸ minted) (by rw [status]; rfl) fresh
      (id ▸ WriteLocked.head_update)
  refine went now new good id status (snapshotOnBook_learnerAccountId own.catalog row)
    (snapshotOnBook_teacherAccountId own.catalog row)
    (snapshotOnBook_durationMinutes own.catalog row) ?_
  exact stands.queue lawful ((slot?_insert fresh _).trans (if_pos rfl))

theorem assignPostpaid_obeys (input : Program.AssignSlotDirect) (slot : LessonSlot) :
    (discipline terms).Obeys session (Program.assignPostpaid input slot) := by
  have finish : (discipline terms).Obeys session
      (Program.query Program.thrown fun _ own =>
        if own.catalog.paymentMethod input.teacherAccountId input.learnerAccountId.id = .none then
          Program.rollbackNotOk "payment_method_not_set"
        else .commit Program.thrown (.done (.returned "postpaid" [slot.id, input.tariffId]))) := by
    apply Program.Obeys.query thrown_obeys
    intro _ own
    split
    · trivial
    · exact commit_obeys _
  rw [Program.assignPostpaid]
  split
  · apply Program.Obeys.query thrown_obeys
    intro committed _
    split
    · trivial
    · exact finish
  · exact finish

theorem assignPinned_safe {now : Nat} {input : Program.AssignSlotDirect} {slot : LessonSlot}
    {packagePurchaseId : RowId} (reserved : Reserved terms held slot input.learnerAccountId.id)
    (teacher : slot.teacherAccountId = input.teacherAccountId)
    (start : (discipline terms).Stands session held pending
      (fun own => own.slot? slot.id = some slot) db) :
    (contract terms).Safe store permits session
      (Program.assignPinned now input slot packagePurchaseId) held pending db := by
  refine Program.Safe.query _ (Discipline.Stands.stable (local_slot reserved.locked slot)) start
    (fun _ _ _ => trivial) ?_
  intro earlier stands good
  let snapshot := store.applyAll earlier pending
  refine safe_lockFirst snapshot.activeCount (fun _ _ => True) reserved thrown_obeys
    (rollbackNotOk_obeys _) ?_ good ?_
  · intro later more purchase good reserved locked chosen _ stands
    split
    · exact Program.Safe.refused
    · rename_i row matched
      have picked := Option.filter_eq_some_iff.mp matched
      have same : purchase = row := Option.some.inj picked.1
      subst same
      simp only [Bool.and_eq_true, decide_eq_true_eq, Option.isNone_iff_eq_none] at chosen
      have checks := picked.2
      simp only [Bool.and_eq_true, decide_eq_true_eq, Db.hasRemaining] at checks
      have suits : Suits slot purchase :=
        ⟨by rw [reserved.learner, chosen.1.1], checks.2.symm,
          Or.inr (checks.1.2.trans (by rw [teacher]))⟩
      refine safe_insertConsumption reserved locked suits chosen.2 (fun _ => checks.1.1)
        thrown_obeys ?_ stands
      intro created
      split
      · exact commit_obeys _
      · trivial
  · refine ⟨stands.1, stands.2.1, stands.2.2, ?_⟩
    rintro ⟨id, listed⟩
    rcases List.mem_map.mp listed with ⟨purchase, member, rfl⟩
    have found := Option.filter_eq_some_iff.mp (Option.mem_toList.mp member)
    have key : purchase.id = packagePurchaseId := key_of_get found.1
    have owner := found.2
    simp only [Bool.and_eq_true, decide_eq_true_eq] at owner
    exact ⟨purchase, key ▸ found.1, owner.1.1, trivial, fun _ => Nat.le_refl _⟩

theorem billAssignedSlot_safe {now : Nat} {input : Program.AssignSlotDirect} {slot : LessonSlot}
    (reserved : Reserved terms held slot input.learnerAccountId.id)
    (teacher : slot.teacherAccountId = input.teacherAccountId) (good : Good terms db)
    (start : (discipline terms).Stands session held pending
      (fun own => own.slot? slot.id = some slot) db) :
    (contract terms).Safe store permits session (Program.billAssignedSlot now input slot)
      held pending db := by
  rw [Program.billAssignedSlot]
  split
  · exact safe_tail good (assignPostpaid_obeys input slot) start
  · split
    · exact assignPinned_safe reserved teacher start
    · refine safe_consumePackageUnit reserved rfl teacher thrown_obeys ?_ start
      intro consumed
      split
      · exact commit_obeys _
      · split
        · trivial
        · exact assignPostpaid_obeys input slot

theorem assignInTx_safe {now startAt durationMinutes : Nat} {input : Program.AssignSlotDirect}
    (spelled : terms.canonical -> input.learnerAccountId.IsCanonical) (good : Good terms db) :
    (contract terms).Safe store permits session
      (Program.assignInTx session now input startAt durationMinutes) [] [] db := by
  apply safe_lockLearner (Discipline.Stands.start good trivial)
  intro _ good stands
  apply safe_query stands
  intro _ good stands
  split
  · exact Program.Safe.refused
  apply safe_query stands
  intro _ good stands
  split
  · exact Program.Safe.refused
  split
  · exact Program.Safe.refused
  split
  · exact Program.Safe.refused
  apply safe_query stands
  intro _ good stands
  split
  · exact Program.Safe.refused
  refine safe_insertBookedSlot rfl rfl stands ?_
  intro _ new good id status learner teacher _ stands
  refine billAssignedSlot_safe ⟨?_, ?_, learner, ?_⟩ teacher good stands
  · rw [id]
    exact WriteLocked.head_update
  · rw [status]
    simp
  · intro canonical
    rw [← (spelled canonical).eq_canonical]
    exact (WriteLocked.head_update).append _

theorem assignSlotDirect_safe (input : Program.AssignSlotDirect)
    (spelled : terms.canonical -> input.learnerAccountId.IsCanonical) (good : Good terms db) :
    (contract terms).Safe store permits session (Program.assignSlotDirect session input)
      [] [] db := by
  rw [Program.assignSlotDirect]
  split
  · trivial
  split
  · trivial
  split
  · trivial
  split
  · trivial
  apply safe_dateNow good
  intro now good
  split
  · trivial
  split
  · trivial
  exact safe_begin good fun now good => assignInTx_safe spelled good

theorem moveSlot_safe {now newStartAt : Nat} {oldSlot : LessonSlot} {learnerAccountId : RowId}
    {actor : Actor} {restoreReason : String} (learnerLocked :
      WriteLocked held (.advisory (.pkgConsume (.canonical learnerAccountId))))
    (start : (discipline terms).Stands session held pending (fun _ => True) db) :
    (contract terms).Safe store permits session
      (Program.moveSlot session now oldSlot learnerAccountId newStartAt actor restoreReason)
      held pending db := by
  apply safe_execute start (lawful_restoreOne _ _ _ _)
  intro _ own _ good stands
  apply safe_query stands
  intro _ good stands
  split
  · exact Program.Safe.refused
  refine safe_insertBookedSlot rfl rfl stands ?_
  intro _ new good id status learner teacher duration stands
  simp only
  split
  · exact safe_tail good (commit_obeys _) stands
  · refine safe_consumePackageUnit ⟨?_, ?_, learner, ?_⟩ duration teacher thrown_obeys
      (fun _ => commit_obeys _) stands
    · rw [id]
      exact WriteLocked.head_update
    · rw [status]
      simp
    · intro _
      exact (learnerLocked.append _).append _

theorem classifyCancelFailure_obeys (slotId learnerAccountId : RowId) :
    (discipline terms).Obeys session (Program.classifyCancelFailure slotId learnerAccountId) := by
  apply Program.Obeys.query thrown_obeys
  intro committed _
  split
  · trivial
  · split
    · trivial
    · split <;> trivial

theorem classifyTeacherCancelFailure_obeys (slotId teacherAccountId : RowId) :
    (discipline terms).Obeys session
      (Program.classifyTeacherCancelFailure slotId teacherAccountId) := by
  apply Program.Obeys.query thrown_obeys
  intro committed _
  split
  · trivial
  · split <;> trivial

theorem cancel_tidies {own : Db} {old : LessonSlot} (good : Good terms own)
    (found : own.slot? old.id = some old) (unbilled : outcome old.status = none)
    {cancelledAt updatedAt : Nat} {by_ : RowId} {reason : Option String} :
    Tidies own old { old with
      status := .cancelled
      cancelledAt := some cancelledAt
      cancelledByAccountId := some by_
      cancellationReason := reason
      updatedAt := updatedAt } := by
  refine ⟨rfl, ⟨rfl, rfl, Or.inr rfl, fun reopened => by cases reopened⟩, ?_⟩
  intro lesson
  exact (recorded_of_status good found lesson unbilled).symm

theorem rescheduleSlotByLearner_safe (slotId learnerAccountId : RowId) (newStartAt : Option Nat)
    (cancelWindowHours : Nat) (good : Good terms db) : (contract terms).Safe store permits session
      (Program.rescheduleSlotByLearner session slotId learnerAccountId newStartAt
        cancelWindowHours) [] [] db := by
  unfold Program.rescheduleSlotByLearner
  split
  · trivial
  apply safe_dateNow good
  intro now good
  split
  · trivial
  split
  · trivial
  apply safe_begin good
  intro now good
  apply safe_lockLearner (Discipline.Stands.start good trivial)
  intro _ good stands
  refine safe_updateSlot (Discipline.Local.const (discipline terms) session _ True) stands
    ?_ (fun _ _ => trivial) ?_ ?_
  · intro own old good _ found _ chosen
    simp only [Bool.and_eq_true, decide_eq_true_eq] at chosen
    exact cancel_tidies good found (by rw [chosen.1.2]; rfl)
  · intro _ _ more good _ _ stands
    exact safe_tail good (classifyCancelFailure_obeys slotId learnerAccountId) stands
  · intro _ own old new good _ _ _ _ _ stands
    exact moveSlot_safe (WriteLocked.of_mem (List.mem_cons_of_mem _ List.mem_cons_self))
      (stands.weaken fun _ both => ⟨both.1, trivial⟩)

theorem rescheduleSlotByTeacher_safe (slotId teacherAccountId : RowId)
    (newStartAt : Option Nat) (reason : Option String) (good : Good terms db) :
    (contract terms).Safe store permits session
      (Program.rescheduleSlotByTeacher session slotId teacherAccountId newStartAt reason)
      [] [] db := by
  unfold Program.rescheduleSlotByTeacher
  extract_lets trimmedReason
  generalize jsLength trimmedReason = length
  split
  · exact True.intro
  split
  · exact True.intro
  apply safe_dateNow good
  intro now good
  split
  · trivial
  split
  · trivial
  apply safe_begin good
  intro now good
  refine safe_updateSlot (Discipline.Local.const (discipline terms) session _ True)
    (Discipline.Stands.start good trivial) ?_ (fun _ _ => trivial) ?_ ?_
  · intro own old good _ found _ chosen
    simp only [Bool.and_eq_true, decide_eq_true_eq] at chosen
    exact cancel_tidies good found (by rw [chosen.2]; rfl)
  · intro _ _ more good _ _ stands
    exact safe_tail good (classifyTeacherCancelFailure_obeys slotId teacherAccountId) stands
  · intro _ own old new good _ _ _ _ _ stands
    simp only
    split
    · exact Program.Safe.refused
    · exact safe_lockLearner (stands.weaken fun _ both => ⟨both.1, trivial⟩)
        fun _ good stands => moveSlot_safe (WriteLocked.of_mem List.mem_cons_self) stands

end LevelChannel.Scheduling
