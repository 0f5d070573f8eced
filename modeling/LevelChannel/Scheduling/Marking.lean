import LevelChannel.Scheduling.Completions

namespace LevelChannel.Scheduling

open ReadCommitted Tables

/-!
# Marking a lesson, and changing or taking back the mark

The routes that write completions.  Each holds the lock of the slot or of the completion
from the moment it reads the row it decides on.
-/

variable {terms : Terms} {permits : Label -> Db -> Prop} {session : Nat} {held : List Lock}
  {pending : List Write} {db : Db}

theorem setMarks_obeys {slotId : RowId} {set_ : LessonSlot -> LessonSlot} {next : Program}
    (id : ∀ slot, (set_ slot).id = slot.id)
    (personal : ∀ slot, (set_ slot).isPersonalEvent = slot.isPersonalEvent)
    (step : ∀ slot, SlotStep slot (set_ slot)) (status : ∀ slot, (set_ slot).status = slot.status)
    (went : (discipline terms).Obeys session next) :
    (discipline terms).Obeys session (Program.setSlot slotId set_ next) :=
  updateSlot_obeys
    (fun _ old good found _ =>
      Tidies.of_status good found (id old) (personal old) (step old) (status old))
    thrown_obeys fun _ => went

theorem safe_insertCompletion {now : Nat} {row : LessonCompletion} {slot : LessonSlot}
    {next : Program} (locked : WriteLocked held (.slot row.slotId))
    (booked : slot.status = .booked) (went : (discipline terms).Obeys session next)
    (start : (discipline terms).Stands session held pending
      (fun own => own.slot? row.slotId = some slot) db) :
    (contract terms).Safe store permits session
      (Program.insertCompletion now row Program.thrown next) held pending db := by
  refine Program.Safe.checked _ (Discipline.Stands.stable (local_slot locked slot)) start
    (fun _ _ _ => trivial) ?_
  intro now stands good accepted
  simp only [Program.insertCompletionRejects, Bool.or_eq_false_iff, Option.isSome_eq_false_iff,
    Option.isNone_iff_eq_none] at accepted
  exact safe_tail good went
    (stands.onward (lawful_insertCompletion stands.2.2 booked accepted.1.1.1 accepted.2))

theorem safe_insertCompletionIfAbsent {now : Nat} {row : LessonCompletion} {slot : LessonSlot}
    {next : Bool -> Program} (locked : WriteLocked held (.slot row.slotId))
    (booked : slot.status = .booked)
    (went : ∀ created, (discipline terms).Obeys session (next created))
    (start : (discipline terms).Stands session held pending
      (fun own => own.slot? row.slotId = some slot) db) :
    (contract terms).Safe store permits session
      (Program.insertCompletionIfAbsent now row Program.thrown next) held pending db := by
  refine Program.Safe.checked _ (Discipline.Stands.stable (local_slot locked slot)) start
    (fun _ _ _ => trivial) ?_
  intro now stands good accepted
  split
  · rw [List.append_nil]
    exact safe_tail good (went _) (stands.more _)
  · rename_i absent
    simp only [Option.not_isSome_iff_eq_none] at absent
    simp only [absent, Option.isNone_none, Bool.true_and, Program.insertCompletionRejects,
      Bool.or_eq_false_iff, Option.isSome_eq_false_iff, Option.isNone_iff_eq_none] at accepted
    exact safe_tail good (went _)
      (stands.onward (lawful_insertCompletion stands.2.2 booked accepted.1.1 absent))

/-! ## Changing a mark -/

/-- The own view agrees but for one slot, and satisfies a fact. -/
def Works (terms : Terms) (session : Nat) (held : List Lock) (pending : List Write)
    (slotId : RowId) (fact : Db -> Prop) (db : Db) : Prop :=
  (discipline terms).Holds session held pending
    (fun own => AgreeExcept (· = slotId) own ∧ fact own) db

theorem Works.stable {slotId : RowId} {fact : Db -> Prop}
    (loc : (discipline terms).Local session held fact) :
    (contract terms).Stable store session held (Works terms session held pending slotId fact) := by
  intro before after works disturbed
  have still := Discipline.Holds.stable loc before after ⟨works.1, works.2.2⟩ disturbed
  exact ⟨still.1, agreeExcept_transfer disturbed.1 disturbed.2.1 (agrees_of_disturbs disturbed)
    works.1 works.2.1, still.2⟩

theorem safe_followMark {slotId : RowId} {slot : LessonSlot} {flag : Bool}
    {next : Program} (locked : WriteLocked held (.slot slotId))
    (went : (discipline terms).Obeys session next) (start : Works terms session held pending slotId
      (fun own => own.slot? slotId = some slot ∧ recorded own slotId = some flag) db) :
    (contract terms).Safe store permits session
      (Program.setSlot slotId (fun slot => { slot with status := outcomeStatus flag }) next)
      held pending db := by
  have stable : (contract terms).Stable store session held
      (Works terms session held pending slotId
        (fun own => own.slot? slotId = some slot ∧ recorded own slotId = some flag)) :=
    Works.stable ((local_slot locked slot).and (local_recorded locked (some flag)))
  have reached : ∀ own : Db, own.slot? slotId = some slot ->
      own.slotUpdate slotId (fun _ => true)
          (fun slot => { slot with status := outcomeStatus flag }) =
        some (slot, ({ slot with status := outcomeStatus flag } : LessonSlot).snapshotOnBook
          own.catalog) := by
    intro own read
    simp [Db.slotUpdate, read]
  refine Program.Safe.query _ stable start (fun _ _ _ => trivial) ?_
  intro now works good
  simp only [reached _ works.2.2.1]
  refine Program.Safe.checked _ stable works (fun _ _ _ => trivial) ?_
  intro now works good accepted
  let own := store.applyAll now pending
  let marked : LessonSlot := { slot with status := outcomeStatus flag }
  let new := marked.snapshotOnBook own.catalog
  have key : slot.id = slotId := key_of_get works.2.2.1
  have id : new.id = slotId := (marked.snapshotOnBook_id own.catalog).trans key
  have status : new.status = outcomeStatus flag := marked.snapshotOnBook_status own.catalog
  have plain : SlotStep slot marked := by
    refine ⟨rfl, rfl, Or.inr rfl, fun reopened => ?_⟩
    simp only [marked, outcomeStatus] at reopened
    split at reopened <;> cases reopened
  have inv : Inv terms own := inv_applyAll good.inv works.1
  have found : own.slot? new.id = some slot := id.symm ▸ works.2.2.1
  have step : SlotStep slot new := plain.snapshot own.catalog
  have after : Good terms (own.apply (.slot (.replace new))) := by
    refine ⟨replaceSlot_inv inv found step, ?_, ?_⟩
    · intro other member lesson
      rcases mem_replace member with rfl | ⟨listed, different⟩
      · refine (congrArg outcome status).trans ?_
        rw [outcome_outcomeStatus]
        exact (congrArg (recorded own) id |>.trans works.2.2.2).symm
      · exact works.2.1 other listed lesson fun clash => different (clash.trans id.symm)
    · exact (Nat.le_of_eq (clock_applyAll good.inv works.1).symm) |> Nat.le_trans good.since
  simp only [reached _ works.2.2.1]
  refine Discipline.safe_of_obeys went good ?_
  refine (Discipline.Holds.more works _).queue ⟨⟨?_, slot, found, step⟩, trivial⟩ ⟨after, trivial⟩
  rw [id]
  exact WriteLocked.head_noKeyUpdate

theorem safe_remark {row : LessonCompletion} {slot : LessonSlot} {flag : Bool} {next : Program}
    (locked : WriteLocked held (.slot row.slotId))
    (completionLocked : WriteLocked held (.completion row.id))
    (went : (discipline terms).Obeys session next)
    (start : (discipline terms).Stands session held pending (fun own =>
      own.slot? row.slotId = some slot ∧ own.completion? row.id = some row) db) :
    (contract terms).Safe store permits session (Program.setWasNoShow row.id flag
        (Program.setSlot row.slotId (fun slot => { slot with status := outcomeStatus flag }) next))
      held pending db := by
  refine Program.Safe.execute _ (Discipline.Stands.stable ((local_slot locked slot).and
    (local_completion completionLocked (some row)))) start (fun _ _ _ => trivial) ?_
  intro now stands good
  rcases stands.2 with ⟨goodOwn, readSlot, readRow⟩
  simp only [readRow]
  let new : LessonCompletion := { row with wasNoShow := flag }
  have revises : Revises row new := ⟨rfl, fun stamped => stamped⟩
  have allowed : Allows terms ([(LockTarget.completion row.id).forNoKeyUpdate] ++ held)
      (store.applyAll now pending) (.completion (.replace new)) :=
    ⟨WriteLocked.head_noKeyUpdate, row, readRow, revises, Or.inr (locked.append _)⟩
  have kept := (allowed.kept goodOwn.inv).1
  have found : (store.applyAll now pending).completion? new.id = some row := readRow
  have said := recorded_replace goodOwn.inv found revises kept
  have works : Works terms session ([(LockTarget.completion row.id).forNoKeyUpdate] ++ held)
      (pending ++ [.completion (.replace new)]) row.slotId
      (fun own => own.slot? row.slotId = some slot ∧ recorded own row.slotId = some flag) now := by
    refine (Discipline.Holds.more stands _).queue ⟨allowed, trivial⟩ ⟨?_, readSlot, ?_⟩
    · intro other member lesson different
      refine (goodOwn.agree other member lesson).trans ?_
      exact ((said other.id).trans (if_neg different)).symm
    · exact (said row.slotId).trans (if_pos rfl)
  exact safe_followMark (locked.append _) went works

/-- What a transaction holds when it walks through the matrix of transitions. -/
structure ChainReady (terms : Terms) (held : List Lock) (now : Nat)
    (chain : Program.LessonChain) : Prop where
  slotLocked : WriteLocked held (.slot chain.slotId)
  placed : ∀ row, chain.completionRow = some row -> row.slotId = chain.slotId
  completionLocked : ∀ row, chain.completionRow = some row ->
    WriteLocked held (.completion row.id)
  timely : ∀ row, chain.completionRow = some row ->
    Program.willDeleteCompletion chain.fromStatus chain.toStatus = true ->
      Timely terms ⟨row, now, chain.judgedAt⟩

def ChainRead (chain : Program.LessonChain) (slot : LessonSlot) (own : Db) : Prop :=
  own.slot? chain.slotId = some slot ∧
    ∀ row : { row // chain.completionRow = some row }, own.completion? row.1.id = some row.1

theorem keepMarkedAt_obeys {slotId : RowId} {now : Nat} {next : Program}
    (went : (discipline terms).Obeys session next) :
    (discipline terms).Obeys session (Program.setSlot slotId
      (fun row => { row with markedAt := some (row.markedAt.getD now) }) next) :=
  setMarks_obeys (fun _ => rfl) (fun _ => rfl)
    (fun _ => ⟨rfl, rfl, Or.inr rfl, fun reopened => reopened⟩) (fun _ => rfl) went

theorem safe_setUnbilled {slotId : RowId} {slot : LessonSlot} {set_ : LessonSlot -> LessonSlot}
    {next : Program} (locked : WriteLocked held (.slot slotId))
    (unbilled : outcome slot.status = none) (id : (set_ slot).id = slot.id)
    (personal : (set_ slot).isPersonalEvent = slot.isPersonalEvent)
    (step : SlotStep slot (set_ slot)) (still : outcome (set_ slot).status = none)
    (went : ∀ now new queued more, Good terms now -> new.status = (set_ slot).status ->
      (discipline terms).Stands session (more ++ held) queued
        (fun own => own.slot? slotId = some new) now ->
      (contract terms).Safe store permits session next (more ++ held) queued now)
    (start : (discipline terms).Stands session held pending
      (fun own => own.slot? slotId = some slot) db) :
    (contract terms).Safe store permits session (Program.setSlot slotId set_ next)
      held pending db := by
  refine safe_updateSlot (local_slot locked slot) start ?_ (fun _ _ => trivial) ?_ ?_
  · intro own old good read found key _
    have same : old = slot := by
      rw [key, read] at found
      exact (Option.some.inj found).symm
    subst same
    refine ⟨id, step, fun lesson => ?_⟩
    rw [still]
    exact (recorded_of_status good found (personal.symm.trans lesson) unbilled).symm
  · intro now own more _ read update
    simp [Db.slotUpdate, read] at update
  · intro now own old new good _ read found _ made stands
    have same : old = slot := Option.some.inj (found.symm.trans read)
    subst same
    refine went now new _ [_] good ?_ stands
    rw [made, LessonSlot.snapshotOnBook_status]

theorem reverted_slot {own : Db} {begunAt judgedAt : Nat} {row : LessonCompletion}
    {slot : LessonSlot} {marked : Bool} (found : own.slot? row.slotId = some slot)
    (billed : outcome slot.status = some marked) :
    ∃ new, (store.applyAll own (deleteWrites begunAt judgedAt row own)).slot? row.slotId =
      some new ∧ new.status = .booked := by
  let moved : LessonSlot :=
    { slot with
      status := .booked
      updatedAt := begunAt }
  let new := moved.snapshotOnBook own.catalog
  have key : slot.id = row.slotId := key_of_get found
  have id : new.id = row.slotId := (moved.snapshotOnBook_id own.catalog).trans key
  refine ⟨new, ?_, moved.snapshotOnBook_status own.catalog⟩
  rw [deleteWrites, completionRevert_eq found billed]
  let deleted := (own.apply (.erasure ⟨row, begunAt, judgedAt⟩)).apply (.completion (.delete row))
  have read : deleted.slot? new.id = some slot := id.symm ▸ found
  exact (slot?_replace read row.slotId).trans (if_pos id)

theorem chain_delete_safe {now : Nat} {chain : Program.LessonChain} {slot : LessonSlot}
    {row : LessonCompletion} {next : Program} {marked : Bool}
    (ready : ChainReady terms held now chain) (known : chain.completionRow = some row)
    (deletes : Program.willDeleteCompletion chain.fromStatus chain.toStatus = true)
    (billed : outcome slot.status = some marked)
    (went : ∀ now new queued more, Good terms now -> new.status = .booked ->
      (discipline terms).Stands session (more ++ held) queued
        (fun own => own.slot? chain.slotId = some new) now ->
      (contract terms).Safe store permits session next (more ++ held) queued now)
    (start : (discipline terms).Stands session held pending (ChainRead chain slot) db) :
    (contract terms).Safe store permits session
      (Program.deleteCompletion now chain.judgedAt row Program.thrown
        (fun message => .done (.thrown message)) next) held pending db := by
  refine safe_deleteCompletion (ready.timely row known deletes) (ready.completionLocked row known)
    (local_slot ready.slotLocked slot) thrown_obeys (fun _ => trivial) ?_
    (start.weaken fun own both => ⟨both.1, both.2.2 ⟨row, known⟩, both.2.1⟩)
  intro now own good _ found _ stands
  rw [← ready.placed row known] at found
  rcases reverted_slot found billed with ⟨new, read, booked⟩
  refine went now new _ _ good booked (stands.weaken fun after both => ⟨both.1, ?_⟩)
  rw [both.2, ← ready.placed row known]
  exact read

theorem applyLessonChain_safe {now : Nat} {chain : Program.LessonChain} {slot : LessonSlot}
    {next : Program} (ready : ChainReady terms held now chain)
    (from_ : slot.status = chain.fromStatus) (went : (discipline terms).Obeys session next)
    (start : (discipline terms).Stands session held pending (ChainRead chain slot) db) :
    (contract terms).Safe store permits session
      (Program.applyLessonChainInTx session now chain Program.rollbackNotOk next)
      held pending db := by
  have slotRead : (discipline terms).Stands session held pending
      (fun own => own.slot? chain.slotId = some slot) db :=
    start.weaken fun own both => ⟨both.1, both.2.1⟩
  have tail : ∀ {db held pending fact}, Good terms db ->
      (discipline terms).Stands session held pending fact db ->
      (contract terms).Safe store permits session next held pending db :=
    fun good stands => safe_tail good went stands
  have remark : ∀ flag row, chain.completionRow = some row ->
      (contract terms).Safe store permits session
        (Program.setWasNoShow row.id flag (Program.setSlot chain.slotId
          (fun slot => { slot with status := outcomeStatus flag }) next)) held pending db := by
    intro flag row known
    have both : (discipline terms).Stands session held pending (fun own =>
        own.slot? row.slotId = some slot ∧ own.completion? row.id = some row) db :=
      start.weaken fun own read =>
        ⟨read.1, ready.placed row known ▸ read.2.1, read.2.2 ⟨row, known⟩⟩
    rw [← ready.placed row known]
    exact safe_remark (ready.placed row known ▸ ready.slotLocked)
      (ready.completionLocked row known) went both
  have complete : ∀ {db held pending slot}, slot.status = .booked ->
      WriteLocked held (.slot chain.slotId) ->
      (discipline terms).Stands session held pending
        (fun own => own.slot? chain.slotId = some slot) db ->
      (contract terms).Safe store permits session
        (Program.insertCompletion now (Program.chainCompletion session now chain) Program.thrown
          (Program.setSlot chain.slotId
            (fun row => { row with markedAt := some (row.markedAt.getD now) }) next))
        held pending db :=
    fun booked locked stands =>
      safe_insertCompletion locked booked (keepMarkedAt_obeys went) stands
  have absent : ∀ {db held pending slot}, outcome slot.status = none ->
      WriteLocked held (.slot chain.slotId) ->
      (discipline terms).Stands session held pending
        (fun own => own.slot? chain.slotId = some slot) db ->
      (contract terms).Safe store permits session
        (Program.setSlot chain.slotId
          (fun slot => { slot with
            status := .noShowTeacher
            markedAt := some (slot.markedAt.getD now) }) next)
        held pending db :=
    fun unbilled locked stands => safe_setUnbilled locked unbilled rfl rfl
      ⟨rfl, rfl, Or.inr rfl, fun reopened => by cases reopened⟩ rfl
      (fun _ _ _ _ good _ stands => tail good stands) stands
  have rebook : ∀ {next : Program}, outcome slot.status = none ->
      (∀ now new queued more, Good terms now -> new.status = .booked ->
        (discipline terms).Stands session (more ++ held) queued
          (fun own => own.slot? chain.slotId = some new) now ->
        (contract terms).Safe store permits session next (more ++ held) queued now) ->
      (contract terms).Safe store permits session
        (Program.setSlot chain.slotId
          (fun slot => { slot with
            status := .booked
            markedAt := none }) next)
        held pending db :=
    fun unbilled after => safe_setUnbilled ready.slotLocked unbilled rfl rfl
      ⟨rfl, rfl, Or.inr rfl, fun reopened => by cases reopened⟩ rfl after slotRead
  unfold Program.applyLessonChainInTx
  extract_lets keepMarkedAt missingSnapshot
  split <;> rename_i fromStatus toStatus
  · split
    · exact Program.Safe.refused
    · rename_i row known
      exact remark true row known
  · split
    · exact Program.Safe.refused
    · rename_i row known
      exact remark false row known
  · split
    · exact Program.Safe.refused
    · rename_i row known
      exact chain_delete_safe ready known (by rw [fromStatus, toStatus]; rfl)
        (by rw [from_, fromStatus]; rfl) (fun _ _ _ _ good _ stands => tail good stands) start
  · split
    · exact Program.Safe.refused
    · rename_i row known
      exact chain_delete_safe ready known (by rw [fromStatus, toStatus]; rfl)
        (by rw [from_, fromStatus]; rfl) (fun _ _ _ _ good _ stands => tail good stands) start
  · split
    · exact Program.Safe.refused
    · rename_i row known
      exact chain_delete_safe ready known (by rw [fromStatus, toStatus]; rfl)
        (by rw [from_, fromStatus]; rfl)
        (fun _ _ _ more _ booked stands =>
          absent (by rw [booked]; rfl) (ready.slotLocked.append more) stands) start
  · split
    · exact Program.Safe.refused
    · rename_i row known
      exact chain_delete_safe ready known (by rw [fromStatus, toStatus]; rfl)
        (by rw [from_, fromStatus]; rfl)
        (fun _ _ _ more _ booked stands =>
          absent (by rw [booked]; rfl) (ready.slotLocked.append more) stands) start
  · split
    · exact Program.Safe.refused
    · exact complete (from_.trans fromStatus) ready.slotLocked slotRead
  · split
    · exact Program.Safe.refused
    · exact complete (from_.trans fromStatus) ready.slotLocked slotRead
  · exact absent (by rw [from_, fromStatus]; rfl) ready.slotLocked slotRead
  · exact rebook (by rw [from_, fromStatus]; rfl) fun _ _ _ _ good _ stands => tail good stands
  · split
    · exact Program.Safe.refused
    · exact rebook (by rw [from_, fromStatus]; rfl) fun _ _ _ more _ booked stands =>
        complete booked (ready.slotLocked.append more) stands
  · split
    · exact Program.Safe.refused
    · exact rebook (by rw [from_, fromStatus]; rfl) fun _ _ _ more _ booked stands =>
        complete booked (ready.slotLocked.append more) stands
  · exact Program.Safe.refused

theorem lockedChain_safe {now : Nat} {chain : Program.LessonChain} {slot : LessonSlot}
    (ready : ChainReady terms held now chain) (from_ : slot.status = chain.fromStatus)
    (start : (discipline terms).Stands session held pending (ChainRead chain slot) db) :
    (contract terms).Safe store permits session
      (Program.applyLessonChainInTx session now chain Program.rollbackNotOk
        (Program.setSlot chain.slotId
          (fun slot => { slot with updatedAt := now })
          (.commit Program.thrown (Program.notOk "ok")))) held pending db := by
  refine applyLessonChain_safe ready from_ ?_ start
  exact setMarks_obeys (fun _ => rfl) (fun _ => rfl)
    (fun _ => ⟨rfl, rfl, Or.inr rfl, fun reopened => reopened⟩) (fun _ => rfl) (commit_obeys _)

/-- What `changeLessonStatus` does once it knows when it judges the completion. -/
abbrev judgedChain (session now : Nat) (chain : Program.LessonChain) : Program :=
  let finish : Program :=
    Program.applyLessonChainInTx session now chain Program.rollbackNotOk
      (Program.setSlot chain.slotId (fun slot => { slot with updatedAt := now })
        (.commit Program.thrown (Program.notOk "ok")))
  match chain.completionRow.filter fun _ =>
      Program.willDeleteCompletion chain.fromStatus chain.toStatus with
  | none => finish
  | some completion =>
    if completion.immutableAt ≠ none ∨
        completion.createdAt + fortyEightHoursMs ≤ chain.judgedAt then
      Program.rollbackNotOk "immutable"
    else
      Program.query Program.thrown fun _ own =>
        if own.covered completion.id then Program.rollbackNotOk "settled"
        else
          Program.query Program.thrown fun _ own =>
            if own.accrued completion.id then Program.rollbackNotOk "accrued"
            else finish

theorem judgedChain_safe {now : Nat} {chain : Program.LessonChain} {slot : LessonSlot}
    (since : terms.since ≤ now) (ordered : now ≤ chain.judgedAt)
    (from_ : slot.status = chain.fromStatus) (slotLocked : WriteLocked held (.slot chain.slotId))
    (placed : ∀ row, chain.completionRow = some row -> row.slotId = chain.slotId)
    (completionLocked : ∀ row, chain.completionRow = some row ->
      WriteLocked held (.completion row.id))
    (start : (discipline terms).Stands session held pending (ChainRead chain slot) db) :
    (contract terms).Safe store permits session (judgedChain session now chain)
      held pending db := by
  have loc : (discipline terms).Local session held (ChainRead chain slot) :=
    (local_slot slotLocked slot).and (Discipline.Local.all
      fun row : { row // chain.completionRow = some row } =>
        local_completion (completionLocked row.1 row.2) (some row.1))
  unfold judgedChain
  extract_lets finish
  have finishes : ∀ {db}, (∀ row, chain.completionRow = some row ->
      Program.willDeleteCompletion chain.fromStatus chain.toStatus = true ->
        Timely terms ⟨row, now, chain.judgedAt⟩) ->
      (discipline terms).Stands session held pending (ChainRead chain slot) db ->
      (contract terms).Safe store permits session finish held pending db :=
    fun timely stands =>
      lockedChain_safe ⟨slotLocked, placed, completionLocked, timely⟩ from_ stands
  split
  · rename_i keeps
    refine finishes ?_ start
    intro row known deletes
    simp [known, deletes] at keeps
  · rename_i completion chosen
    have known : chain.completionRow = some completion :=
      (Option.filter_eq_some_iff.mp chosen).1
    split
    · exact Program.Safe.refused
    rename_i open_
    have window : chain.judgedAt < completion.createdAt + fortyEightHoursMs := by
      simp only [not_or, Nat.not_le] at open_
      exact open_.2
    refine Program.Safe.query _ (Discipline.Stands.stable loc) start (fun _ _ _ => trivial) ?_
    intro current stands good
    split
    · exact Program.Safe.refused
    refine Program.Safe.query _ (Discipline.Stands.stable loc) stands (fun _ _ _ => trivial) ?_
    intro current stands good
    split
    · exact Program.Safe.refused
    refine finishes ?_ stands
    intro row same _
    have alike : completion = row := Option.some.inj (known.symm.trans same)
    subst alike
    exact ⟨since, ordered, window⟩

theorem changeLockedLesson_safe {now expectedUpdatedAt : Nat} {slotId teacherAccountId : RowId}
    {toStatus : LessonTargetStatus} (since : terms.since ≤ now)
    (start : (discipline terms).Stands session held [] (fun own => now ≤ own.clock) db) :
    (contract terms).Safe store permits session
      (Program.changeLockedLesson session now slotId teacherAccountId toStatus expectedUpdatedAt)
      held [] db := by
  refine Program.Safe.locking _ (Discipline.Stands.stable (local_clock now)) start
    (fun _ _ _ => trivial) ?_
  intro current stands good
  split
  · exact Program.Safe.refused
  rename_i row read
  split
  · exact Program.Safe.refused
  have slotLocked : WriteLocked ([(LockTarget.slot slotId).forUpdate] ++ held) (.slot slotId) :=
    WriteLocked.head_update
  have wider := Discipline.Holds.more stands [(LockTarget.slot slotId).forUpdate]
  have known : (discipline terms).Stands session ([(LockTarget.slot slotId).forUpdate] ++ held) []
      (fun own => own.slot? slotId = some row ∧ now ≤ own.clock) current :=
    ⟨wider.1, wider.2.1, read, wider.2.2⟩
  have both : (discipline terms).Local session ([(LockTarget.slot slotId).forUpdate] ++ held)
      (fun own => own.slot? slotId = some row ∧ now ≤ own.clock) :=
    (local_slot slotLocked row).and (local_clock now)
  refine Program.Safe.query _ (Discipline.Stands.stable both) known (fun _ _ _ => trivial) ?_
  intro current known good
  beta_reduce
  split
  · exact Program.Safe.refused
  split
  · exact Program.Safe.refused
  refine Program.Safe.query _ (Discipline.Stands.stable both) known (fun _ _ _ => trivial) ?_
  intro earlier known good
  extract_lets relooked completionLocks
  refine Program.Safe.locking _ (Discipline.Stands.stable both) known (fun _ _ _ => trivial) ?_
  intro found stands good
  let own := store.applyAll found []
  let completionRow := relooked.bind fun row =>
    (own.completion? row.id).filter fun row => row.slotId = slotId
  have slotLocked : WriteLocked (completionLocks ++ ([(LockTarget.slot slotId).forUpdate] ++ held))
      (.slot slotId) := slotLocked.append completionLocks
  have placed : ∀ row, completionRow = some row ->
      own.completion? row.id = some row ∧ row.slotId = slotId := by
    intro row same
    rcases relooked_eq_some same with ⟨-, -, -, placed⟩
    exact placed
  have completionLocked : ∀ row, completionRow = some row ->
      WriteLocked (completionLocks ++ ([(LockTarget.slot slotId).forUpdate] ++ held))
        (.completion row.id) := by
    intro row same
    rcases relooked_eq_some same with ⟨original, before, key, -⟩
    rw [← key, show completionLocks = [(LockTarget.completion original.id).forUpdate] by
      simp only [completionLocks, before]]
    exact WriteLocked.head_update
  have each : (discipline terms).Local session
      (completionLocks ++ ([(LockTarget.slot slotId).forUpdate] ++ held))
      (fun now => ∀ row : { row // completionRow = some row },
        now.completion? row.1.id = some row.1) :=
    Discipline.Local.all fun row => local_completion (completionLocked row.1 row.2) (some row.1)
  have wider := Discipline.Holds.more stands completionLocks
  refine Program.Safe.query _ (Discipline.Stands.stable
      (((local_slot slotLocked row).and each).and (local_clock now)))
    ⟨wider.1, stands.2.1, ⟨stands.2.2.1, fun row => (placed row.1 row.2).1⟩, stands.2.2.2⟩
    (fun _ _ _ => trivial) ?_
  intro judging stands good
  let chain : Program.LessonChain :=
    { slotId := slotId
      teacherId := teacherAccountId
      tariffId := row.tariffId
      snapshotAmountKopecks := row.snapshotAmountKopecks
      completedAt := row.endAt
      fromStatus := row.status
      toStatus := toStatus
      completionRow := completionRow
      judgedAt := judging.clock }
  have read : (discipline terms).Stands session
      (completionLocks ++ ([(LockTarget.slot slotId).forUpdate] ++ held)) []
      (ChainRead chain row) judging :=
    ⟨stands.1, stands.2.1, stands.2.2.1⟩
  have ordered : now ≤ chain.judgedAt := stands.2.2.2
  exact judgedChain_safe since ordered rfl slotLocked (fun row same => (placed row same).2)
    completionLocked read

theorem changeLessonStatus_safe {slotId teacherAccountId : RowId} {toStatus : LessonTargetStatus}
    {expectedUpdatedAt : Nat} (good : Good terms db) : (contract terms).Safe store permits session
      (Program.changeLessonStatus session slotId teacherAccountId toStatus expectedUpdatedAt)
      [] [] db := by
  refine Program.Safe.begin _
    (Discipline.Stands.stable (Discipline.Local.const (discipline terms) session [] True))
    (Discipline.Stands.start good trivial) (fun _ _ _ => trivial) ?_
  intro begun _ good
  have since : terms.since ≤ begun.clock := good.since
  have started : (discipline terms).Stands session [] []
      (fun own => begun.clock ≤ own.clock) begun := Discipline.Stands.start good (Nat.le_refl _)
  have ticking : (discipline terms).Local session [] (fun own => begun.clock ≤ own.clock) :=
    local_clock begun.clock
  refine Program.Safe.query _ (Discipline.Stands.stable ticking) started (fun _ _ _ => trivial) ?_
  intro current stands good
  split
  · exact Program.Safe.refused
  split
  · exact Program.Safe.refused
  split
  · exact Program.Safe.refused
  split
  · exact Program.Safe.refused
  split
  · exact Program.Safe.refused
  refine Program.Safe.locking _ (Discipline.Stands.stable ticking) stands (fun _ _ _ => trivial) ?_
  intro current stands good
  exact changeLockedLesson_safe since (Discipline.Holds.more stands [_])

end LevelChannel.Scheduling
