import LevelChannel.Scheduling.Marking

namespace LevelChannel.Scheduling

open ReadCommitted Tables

/-!
# The routes that mark lessons

Marking a lesson that is over, taking the mark back, personal events and the retention
sweep, each from its first statement to its last.
-/

variable {terms : Terms} {permits : Label -> Db -> Prop} {session : Nat} {held : List Lock}
  {pending : List Write} {db : Db}

/-! ## Marking -/

theorem safe_markLessonCompleted {completionId slotId teacherId : RowId} {now : Nat}
    {wasNoShow : Bool} {markedByAccountId : Option RowId} {ineligible : String -> Program}
    {next : RowId -> Bool -> Program}
    (refused : ∀ reason, (discipline terms).Obeys session (ineligible reason))
    (went : ∀ id created, (discipline terms).Obeys session (next id created))
    (start : (discipline terms).Stands session held pending (fun _ => True) db) :
    (contract terms).Safe store permits session
      (Program.markLessonCompleted completionId now slotId teacherId wasNoShow markedByAccountId
        Program.thrown ineligible next) held pending db := by
  refine Program.Safe.locking _
    (Discipline.Stands.stable (Discipline.Local.const (discipline terms) session held True))
    start (fun _ _ _ => trivial) ?_
  intro current stands good
  have wider := Discipline.Holds.more stands [(LockTarget.slot slotId).forUpdate]
  split
  · exact safe_tail good (refused _) wider
  rename_i slot read
  split
  · exact safe_tail good (refused _) wider
  split
  · refine safe_tail good ?_ wider
    apply Program.Obeys.query thrown_obeys
    intro _ own
    split
    · exact went _ _
    · exact refused _
  split
  · exact safe_tail good (refused _) wider
  rename_i booked
  have slotLocked : WriteLocked ([(LockTarget.slot slotId).forUpdate] ++ held) (.slot slotId) :=
    WriteLocked.head_update
  refine Program.Safe.query _ (Discipline.Stands.stable (local_slot slotLocked slot))
    ⟨wider.1, wider.2.1, read⟩ (fun _ _ _ => trivial) ?_
  intro current stands good
  beta_reduce
  split
  · exact safe_tail good (refused _) stands
  split
  · exact safe_tail good (refused _) stands
  refine safe_insertCompletionIfAbsent slotLocked (not_not.mp booked) ?_ stands
  intro created
  split
  · exact went _ _
  · apply Program.Obeys.query thrown_obeys
    intro _ own
    split
    · exact refused _
    · exact went _ _

theorem markBillable_safe {slotId actorAccountId : RowId} {wasNoShow : Bool}
    {next : String -> Program} (went : ∀ outcome, (discipline terms).Obeys session (next outcome))
    (good : Good terms db) : (contract terms).Safe store permits session
      (Program.markBillable session slotId wasNoShow actorAccountId next) [] [] db := by
  apply safe_begin good
  intro now good
  apply safe_query (Discipline.Stands.start good trivial)
  intro current good stands
  split
  · exact safe_tail good (went _) stands
  refine safe_markLessonCompleted (fun _ => went _) ?_ stands
  intro _ _
  refine updateSlot_obeys ?_ thrown_obeys fun updated => ⟨trivial, went _⟩
  intro own old good found _
  exact Tidies.of_status good found rfl rfl ⟨rfl, rfl, Or.inr rfl, fun reopened => reopened⟩ rfl

theorem sniffMarkFailure_obeys {slotId : RowId} {next : String -> Program}
    (went : ∀ outcome, (discipline terms).Obeys session (next outcome)) :
    (discipline terms).Obeys session (Program.sniffMarkFailure slotId next) := by
  apply Program.Obeys.query thrown_obeys
  intro committed _
  split
  · exact went _
  · split <;> exact went _

theorem absent_tidies {now : Nat} {own : Db} {old : LessonSlot} (good : Good terms own)
    (found : own.slot? old.id = some old) (booked : old.status = .booked) :
    Tidies own old { old with
      status := .noShowTeacher
      markedAt := some (old.markedAt.getD now)
      updatedAt := now } where
  id := rfl
  step := ⟨rfl, rfl, Or.inr rfl, fun reopened => by cases reopened⟩
  agree lesson := (recorded_of_status good found lesson (by rw [booked]; rfl)).symm

theorem markSlotLifecycleThen_safe {slotId actorAccountId : RowId} {status : SlotLifecycleStatus}
    {next : String -> Program} (went : ∀ outcome, (discipline terms).Obeys session (next outcome))
    (good : Good terms db) : (contract terms).Safe store permits session
      (Program.markSlotLifecycleThen session slotId status actorAccountId next) [] [] db := by
  cases status with
  | completed => exact markBillable_safe went good
  | noShowLearner => exact markBillable_safe went good
  | noShowTeacher =>
    rw [Program.markSlotLifecycleThen]
    refine safe_afresh (Program.Obeys.begin thrown_obeys fun now => ?_) good
    refine updateSlot_obeys ?_ thrown_obeys fun updated => ⟨trivial, ?_⟩
    · intro own old good found chosen
      simp only [Bool.and_eq_true, decide_eq_true_eq] at chosen
      exact absent_tidies good found chosen.1
    · split
      · exact went _
      · exact sniffMarkFailure_obeys went

theorem notOk_obeys (reason : String) :
    (discipline terms).Obeys session (Program.notOk reason) := trivial

theorem markSlotLifecycle_safe (slotId : RowId) (status : SlotLifecycleStatus)
    (actorAccountId : RowId) (good : Good terms db) : (contract terms).Safe store permits session
      (Program.markSlotLifecycle session slotId status actorAccountId) [] [] db :=
  markSlotLifecycleThen_safe notOk_obeys good

theorem markSlotByTeacher_safe (slotId teacherAccountId : RowId) (status : SlotLifecycleStatus)
    (good : Good terms db) : (contract terms).Safe store permits session
      (Program.markSlotByTeacher session slotId teacherAccountId status) [] [] db := by
  apply safe_query (Discipline.Stands.start good trivial)
  intro current good _
  split
  · trivial
  split
  · trivial
  exact markSlotLifecycleThen_safe (fun _ => trivial) good

theorem uncompleteRaised_obeys (message : String) :
    (discipline terms).Obeys session (Program.uncompleteRaised message) := by
  rw [Program.uncompleteRaised]
  split
  · trivial
  split
  · trivial
  split <;> trivial

theorem uncomplete_safe (teacherAccountId completionId : RowId) (good : Good terms db) :
    (contract terms).Safe store permits session
      (Program.uncomplete teacherAccountId completionId) [] [] db := by
  unfold Program.uncomplete
  extract_lets onError refuse
  refine Program.Safe.begin _
    (Discipline.Stands.stable (Discipline.Local.const (discipline terms) session [] True))
    (Discipline.Stands.start good trivial) (fun _ _ _ => trivial) ?_
  intro begun _ good
  have since : terms.since ≤ begun.clock := good.since
  have started : (discipline terms).Stands session [] []
      (fun own => begun.clock ≤ own.clock) begun := Discipline.Stands.start good (Nat.le_refl _)
  refine Program.Safe.locking _ (Discipline.Stands.stable (local_clock begun.clock)) started
    (fun _ _ _ => trivial) ?_
  intro current stands good
  split
  · exact Program.Safe.refused
  rename_i row read
  have key : row.id = completionId := key_of_get read
  subst key
  split
  · exact Program.Safe.refused
  have locked : WriteLocked ([(LockTarget.completion row.id).forUpdate] ++ [])
      (.completion row.id) := WriteLocked.head_update
  have wider := Discipline.Holds.more stands [(LockTarget.completion row.id).forUpdate]
  have both : (discipline terms).Local session ([(LockTarget.completion row.id).forUpdate] ++ [])
      (fun own => own.completion? row.id = some row ∧ begun.clock ≤ own.clock) :=
    (local_completion locked (some row)).and (local_clock begun.clock)
  refine Program.Safe.query _ (Discipline.Stands.stable both)
    ⟨wider.1, wider.2.1, read, wider.2.2⟩ (fun _ _ _ => trivial) ?_
  intro judging stands good
  have ordered : begun.clock ≤ judging.clock := stands.2.2.2
  beta_reduce
  split
  · exact Program.Safe.refused
  rename_i open_
  have window : judging.clock < row.createdAt + fortyEightHoursMs := by
    simp only [not_or, Nat.not_le] at open_
    exact open_.2
  refine Program.Safe.query _ (Discipline.Stands.stable both) stands (fun _ _ _ => trivial) ?_
  intro current stands good
  split
  · exact Program.Safe.refused
  refine Program.Safe.query _ (Discipline.Stands.stable both) stands (fun _ _ _ => trivial) ?_
  intro current stands good
  split
  · exact Program.Safe.refused
  refine safe_deleteCompletion ⟨since, ordered, window⟩ locked
    (Discipline.Local.const (discipline terms) session _ True) trivial uncompleteRaised_obeys ?_
    (stands.weaken fun own both => ⟨both.1, both.2.1, trivial⟩)
  intro now own good _ _ _ stands
  exact safe_tail good ⟨trivial, trivial⟩ stands

theorem safe_setPersonal {slotId : RowId} {slot : LessonSlot} {set_ : LessonSlot -> LessonSlot}
    {next : Program} (locked : WriteLocked held (.slot slotId))
    (personal : slot.isPersonalEvent = true) (id : (set_ slot).id = slot.id)
    (still : (set_ slot).isPersonalEvent = slot.isPersonalEvent)
    (step : SlotStep slot (set_ slot)) (went : (discipline terms).Obeys session next)
    (start : (discipline terms).Stands session held pending
      (fun own => own.slot? slotId = some slot) db) :
    (contract terms).Safe store permits session (Program.setSlot slotId set_ next)
      held pending db := by
  refine safe_updateSlot (local_slot locked slot) start ?_ (fun _ _ => trivial) ?_ ?_
  · intro own old good read found key _
    have same : old = slot := by
      rw [key, read] at found
      exact (Option.some.inj found).symm
    subst same
    refine ⟨id, step, fun lesson => ?_⟩
    rw [still, personal] at lesson
    cases lesson
  · intro now own more good _ _ stands
    exact safe_tail good went stands
  · intro now own old new good _ _ _ _ _ stands
    exact safe_tail good went stands

theorem applyDealChain_step {now : Nat} {teacherId : RowId} {fromStatus : SlotStatus}
    {toStatus : DealTargetStatus} {set_ : LessonSlot -> LessonSlot}
    (made : Program.applyDealChain now teacherId fromStatus toStatus = some set_)
    (slot : LessonSlot) :
    (set_ slot).id = slot.id ∧ (set_ slot).isPersonalEvent = slot.isPersonalEvent ∧
      SlotStep slot (set_ slot) := by
  unfold Program.applyDealChain at made
  split at made <;> cases made <;>
    exact ⟨rfl, rfl, rfl, rfl, Or.inr rfl, fun reopened => by cases reopened⟩

theorem changeDealStatus_safe (slotId teacherAccountId : RowId) (toStatus : DealTargetStatus)
    (expectedUpdatedAt : Nat) (good : Good terms db) : (contract terms).Safe store permits session
      (Program.changeDealStatus slotId teacherAccountId toStatus expectedUpdatedAt) [] [] db := by
  apply safe_begin good
  intro now good
  refine Program.Safe.locking _
    (Discipline.Stands.stable (Discipline.Local.const (discipline terms) session [] True))
    (Discipline.Stands.start good trivial) (fun _ _ _ => trivial) ?_
  intro current stands good
  have wider := Discipline.Holds.more stands [(LockTarget.slot slotId).forUpdate]
  split
  · exact Program.Safe.refused
  rename_i row read
  split
  · exact Program.Safe.refused
  split
  · exact Program.Safe.refused
  rename_i personal
  split
  · exact Program.Safe.refused
  split
  · exact Program.Safe.refused
  split
  · exact Program.Safe.refused
  rename_i set_ made
  rcases applyDealChain_step made row with ⟨id, still, step⟩
  refine safe_setPersonal WriteLocked.head_update (by simpa using personal) id still step ?_
    ⟨wider.1, wider.2.1, read⟩
  exact setMarks_obeys (fun _ => rfl) (fun _ => rfl)
    (fun _ => ⟨rfl, rfl, Or.inr rfl, fun reopened => reopened⟩) (fun _ => rfl) (commit_obeys _)

theorem transitionPersonalEvent_safe (slotId teacherAccountId : RowId)
    (cancellationReason : Option (Option String)) (good : Good terms db) :
    (contract terms).Safe store permits session
      (Program.transitionPersonalEvent slotId teacherAccountId cancellationReason) [] [] db := by
  apply safe_begin good
  intro now good
  refine Program.Safe.locking _
    (Discipline.Stands.stable (Discipline.Local.const (discipline terms) session [] True))
    (Discipline.Stands.start good trivial) (fun _ _ _ => trivial) ?_
  intro current stands good
  have wider := Discipline.Holds.more stands [(LockTarget.slot slotId).forUpdate]
  split
  · exact Program.Safe.refused
  rename_i row read
  split
  · exact Program.Safe.refused
  split
  · exact Program.Safe.refused
  rename_i kind
  have personal : row.isPersonalEvent = true := by
    simp only [not_or, Bool.not_eq_false] at kind
    exact kind.1
  refine safe_setPersonal WriteLocked.head_update personal ?_ ?_ ?_ (commit_obeys _)
    ⟨wider.1, wider.2.1, read⟩
  · cases cancellationReason <;> rfl
  · cases cancellationReason <;> rfl
  · cases cancellationReason <;>
      exact ⟨rfl, rfl, Or.inr rfl, fun reopened => by cases reopened⟩

def stamped (row : LessonCompletion) : LessonCompletion :=
  { row with immutableAt := some (row.createdAt + fortyEightHoursMs) }

theorem stamped_revises (row : LessonCompletion) : Revises row (stamped row) :=
  ⟨rfl, fun _ => rfl⟩

theorem lawful_stamp {locks : List Lock} {own : Db} {writes : List Write}
    (each : ∀ write, write ∈ writes -> ∃ row, write = .completion (.replace (stamped row)) ∧
      WriteLocked locks (.completion row.id) ∧ own.completion? row.id = some row)
    (noSlot : ∀ id, ¬ WriteLocked locks (.slot id)) :
    (discipline terms).Lawful session locks own writes := by
  intro good held wider
  have fits : Fits store (Allows terms locks) own writes := by
    refine Fits.of_pairwise (List.pairwise_of_forall_mem_list ?_) ?_
    · intro first memberFirst second memberSecond db one two
      rcases each first memberFirst with ⟨row, rfl, -, read⟩
      rcases each second memberSecond with ⟨other, rfl, -, readOther⟩
      rcases one with ⟨-, old, found, -, -⟩
      rcases two with ⟨locked, older, foundOther, revises, marked⟩
      by_cases same : (stamped row).id = (stamped other).id
      · have alike : row = other := by
          have ids : row.id = other.id := same
          rw [ids, readOther] at read
          exact (Option.some.inj read).symm
        subst alike
        exact ⟨locked, stamped row, by rw [store_apply, completion?_replace found, if_pos rfl],
          Revises.refl _, Or.inl rfl⟩
      · exact ⟨locked, older,
          by rw [store_apply, completion?_replace found, if_neg same, foundOther], revises, marked⟩
    · intro write member
      rcases each write member with ⟨row, rfl, locked, read⟩
      exact ⟨locked, row, read, stamped_revises row, Or.inl rfl⟩
  have slots : (store.applyAll own writes).slots = own.slots := by
    refine slots_applyAll ?_ own
    intro write member
    rcases each write member with ⟨row, rfl, -⟩
    simp [Write.table]
  have inv := inv_applyAll good.inv fits
  have kept := (guarantee_applyAll good.inv fits).lessons
  refine ⟨fits.mono fun _ _ => Allows.widen wider, inv, ?_, ?_⟩
  · rw [slots]
    intro slot member lesson
    rw [Agree, recorded_eq good.inv inv (kept.flags slot.id (noSlot slot.id))]
    exact good.agree slot member lesson
  · rw [clock_applyAll good.inv fits]
    exact good.since

theorem stampLessonCompletionsImmutable_obeys :
    (discipline terms).Obeys session Program.stampLessonCompletionsImmutable := by
  unfold Program.stampLessonCompletionsImmutable
  extract_lets failed
  have failing : (discipline terms).Obeys session failed := trivial
  refine Program.Obeys.begin failing fun now => Program.Obeys.query failing fun _ earlier => ?_
  refine Program.Obeys.execute failing (fun own => lawful_stamp ?_ ?_) fun _ => ⟨failing, trivial⟩
  · intro write member
    rcases List.mem_filterMap.mp member with ⟨id, listed, made⟩
    rcases Option.map_eq_some_iff.mp made with ⟨row, found, rfl⟩
    have read := (Option.filter_eq_some_iff.mp found).1
    have key : row.id = id := key_of_get read
    subst key
    exact ⟨row, rfl, ⟨_, List.mem_map.mpr ⟨row.id, listed, rfl⟩, rfl, Or.inl rfl⟩, read⟩
  · rintro id ⟨lock, member, target, -⟩
    rcases List.mem_map.mp member with ⟨other, -, rfl⟩
    cases target

end LevelChannel.Scheduling
