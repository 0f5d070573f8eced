import LevelChannel.ReadCommitted.Deadlock
import LevelChannel.ReadCommitted.Statements
import LevelChannel.Scheduling.Runs

namespace LevelChannel.Scheduling

open ReadCommitted Tables

/-!
# The lock order of the slot writers

The transactions that write slots take the learner's advisory lock before a slot row and
a slot row before a completion row.  Two requests are out of that order: a move by the
teacher learns the learner from the slot it has locked, and a mark that is taken back
reaches the slot through the trigger of the completion it has locked.  There is no
deadlock as long as neither of the two waits for a transaction that waits itself.
-/

/-- The transactions that write slots. -/
inductive SlotWriter where
  | bookSlot (input : Program.BookSlot)
  | rescheduleSlotByLearner (slotId learnerAccountId : RowId) (newStartAt : Option Nat)
      (cancelWindowHours : Nat)
  | rescheduleSlotByTeacher (slotId teacherAccountId : RowId) (newStartAt : Option Nat)
      (reason : Option String)
  | changeLessonStatus (slotId teacherAccountId : RowId) (toStatus : LessonTargetStatus)
      (expectedUpdatedAt : Nat)
  | uncomplete (teacherAccountId completionId : RowId)
  | cancelSlot (slotId cancelledByAccountId : RowId) (reason : Option String) (actor : Actor)
  | cancelLearnerSlot (slotId learnerAccountId : RowId) (reason : Option String)
      (envFallbackMinutes : Nat)
  | cancelSlotByTeacher (slotId teacherAccountId : RowId) (reason : Option String)

namespace SlotWriter

def program (session : Nat) : SlotWriter -> Program
  | .bookSlot input => .bookSlot input
  | .rescheduleSlotByLearner slotId learnerAccountId newStartAt cancelWindowHours =>
    .rescheduleSlotByLearner session slotId learnerAccountId newStartAt cancelWindowHours
  | .rescheduleSlotByTeacher slotId teacherAccountId newStartAt reason =>
    .rescheduleSlotByTeacher session slotId teacherAccountId newStartAt reason
  | .changeLessonStatus slotId teacherAccountId toStatus expectedUpdatedAt =>
    .changeLessonStatus session slotId teacherAccountId toStatus expectedUpdatedAt
  | .uncomplete teacherAccountId completionId => .uncomplete teacherAccountId completionId
  | .cancelSlot slotId cancelledByAccountId reason actor =>
    .cancelSlot slotId cancelledByAccountId reason actor
  | .cancelLearnerSlot slotId learnerAccountId reason envFallbackMinutes =>
    .cancelLearnerSlot slotId learnerAccountId reason envFallbackMinutes
  | .cancelSlotByTeacher slotId teacherAccountId reason =>
    .cancelSlotByTeacher slotId teacherAccountId reason

/-- The locks a transaction asks for out of order: the learner's lock in a move by the
teacher, and the slot row in a mark that is taken back. -/
def outOfOrder (writer : SlotWriter) (lock : Lock) : Bool :=
  match writer, lock.target with
  | .rescheduleSlotByTeacher _ _ _ _, .advisory _ => true
  | .uncomplete _ _, .slot _ => true
  | _, _ => false

end SlotWriter

def writersOpening (db : Db) (writers : Nat -> SlotWriter) : State :=
  State.start db fun session => (writers session).program session

/-- The learner's lock, slot rows, completion rows.  Nobody else has seen the rows a
session inserts, so it does not wait for them. -/
def slotOrder : LockOrder Lock where
  rank lock := match lock.target with
    | .advisory (.pkgConsume _) => some 0
    | .slot _ => some 1
    | .completion _ => some 2
    | _ => none
  fresh session lock := match lock.target with
    | .slot id => id.minter = some session
    | .completion id => id.minter = some session
    | _ => false

theorem slotOrder_respects : slotOrder.Respects store := by
  intro first second clash
  have same : first.target = second.target := by
    simp only [store, Lock.conflict, Bool.and_eq_true, decide_eq_true_eq] at clash
    exact clash.1
  simp only [slotOrder, same]

variable {session : Nat} {excused : Lock -> Prop} {held more : List Lock} {lock : Lock}
  {slotId : RowId} {onError : Program}

def Below (held : List Lock) (rank : Nat) : Prop :=
  ∀ own, own ∈ held -> ∀ low, slotOrder.rank own = some low -> low < rank

/-- The session inserts the row, or holds a lock that stands in for the one asked for. -/
def Secured (session : Nat) (held : List Lock) (lock : Lock) : Prop :=
  slotOrder.fresh session lock = true ∨
    ∃ own, own ∈ held ∧ LockOrder.Covers store own lock

theorem Secured.append (secured : Secured session held lock) (more : List Lock) :
    Secured session (more ++ held) lock := by
  rcases secured with fresh | ⟨own, mine, covers⟩
  · exact Or.inl fresh
  · exact Or.inr ⟨own, List.mem_append_right more mine, covers⟩

theorem secured_of_update {target : LockTarget} (mine : target.forUpdate ∈ held)
    (mode : LockMode) : Secured session held ⟨target, mode⟩ := by
  refine Or.inr ⟨target.forUpdate, mine, fun taken clash => ?_⟩
  simp only [store, Lock.conflict, Bool.and_eq_true, decide_eq_true_eq] at clash ⊢
  exact ⟨clash.1, rfl⟩

theorem secured_of_noKeyUpdate {target : LockTarget} (mine : target.forNoKeyUpdate ∈ held) :
    Secured session held target.forKeyShare := by
  refine Or.inr ⟨target.forNoKeyUpdate, mine, fun taken clash => ?_⟩
  simp only [store, Lock.conflict, LockTarget.forKeyShare, LockTarget.forNoKeyUpdate,
    Bool.and_eq_true, decide_eq_true_eq] at clash ⊢
  cases mode : taken.mode <;> simp_all [LockMode.conflicts]

abbrev Asks (session : Nat) (excused : Lock -> Prop) (held : List Lock) (lock : Lock) : Prop :=
  excused lock ∨ slotOrder.InOrder store session held lock

theorem asks_secured (secured : Secured session held lock) : Asks session excused held lock := by
  rcases secured with fresh | covered
  · exact Or.inr (Or.inl fresh)
  · exact Or.inr (Or.inr (Or.inr (Or.inl covered)))

theorem asks_unranked (unranked : slotOrder.rank lock = none) : Asks session excused held lock :=
  Or.inr (Or.inr (Or.inl unranked))

theorem asks_below {rank : Nat} (ranked : slotOrder.rank lock = some rank)
    (below : Below held rank) : Asks session excused held lock := by
  refine Or.inr (Or.inr (Or.inr (Or.inr fun own mine low read high same => ?_)))
  rw [ranked, Option.some.injEq] at same
  rw [← same]
  exact below own mine low read

/-! ## Statements -/

abbrev Follows (session : Nat) (excused : Lock -> Prop) (held : List Lock) (program : Program) :
    Prop :=
  slotOrder.Follows store session excused held program

theorem follows_query {next : Db -> Db -> Program} (failed : Follows session excused [] onError)
    (went : ∀ committed own, Follows session excused held (next committed own)) :
    Follows session excused held (Program.query onError next) :=
  ⟨fun _ member => absurd member List.not_mem_nil, failed, went⟩

theorem follows_begin {next : Nat -> Program} (failed : Follows session excused [] onError)
    (went : ∀ now, Follows session excused held (next now)) :
    Follows session excused held (Program.begin onError next) :=
  follows_query failed fun committed _ => went committed.clock

theorem follows_dateNow {next : Nat -> Program} (failed : Follows session excused [] onError)
    (went : ∀ now, Follows session excused held (next now)) :
    Follows session excused held (Program.dateNow onError next) :=
  follows_query failed fun committed _ => went committed.clock

theorem follows_locking {locks : List Lock} {next : Db -> Program}
    (asks : ∀ lock, lock ∈ locks -> Asks session excused held lock)
    (failed : Follows session excused [] onError)
    (went : ∀ own, Follows session excused (locks ++ held) (next own)) :
    Follows session excused held (Program.locking locks onError next) :=
  ⟨asks, failed, fun _ own => went own⟩

theorem follows_execute {locks : List Lock} {writes : Db -> List Write} {next : Db -> Program}
    (asks : ∀ lock, lock ∈ locks -> Asks session excused held lock)
    (failed : Follows session excused [] onError)
    (went : ∀ own, Follows session excused (locks ++ held) (next own)) :
    Follows session excused held (Program.execute locks onError writes next) :=
  ⟨asks, failed, fun _ own => went own⟩

theorem follows_checked {locks : List Lock} {rejects : Db -> Bool} {writes : Db -> List Write}
    {next : Db -> Program} (asks : ∀ lock, lock ∈ locks -> Asks session excused held lock)
    (failed : Follows session excused [] onError)
    (went : ∀ own, Follows session excused (locks ++ held) (next own)) :
    Follows session excused held (Program.checked locks onError rejects writes next) := by
  refine ⟨asks, failed, fun _ own => ?_⟩
  by_cases rejected : rejects own = true
  · simp only [rejected, if_true]
    exact failed
  · simp only [rejected, Bool.false_eq_true, if_false]
    exact went own

theorem follows_checkedOr {locks : List Lock} {onReject : String -> Program}
    {raises : Db -> Option String} {writes : Db -> List Write} {next : Db -> Program}
    (asks : ∀ lock, lock ∈ locks -> Asks session excused held lock)
    (failed : Follows session excused [] onError)
    (rejected : ∀ message, Follows session excused [] (onReject message))
    (went : ∀ own, Follows session excused (locks ++ held) (next own)) :
    Follows session excused held (Program.checkedOr locks onError onReject raises writes next) := by
  refine ⟨asks, failed, fun _ own => ?_⟩
  cases read : raises own with
  | none => simpa only [read] using went own
  | some message =>
    simp only [read]
    exact rejected message

theorem follows_updateSlot {where_ : Db -> LessonSlot -> Bool} {set_ : LessonSlot -> LessonSlot}
    {next : Option LessonSlot -> Program} (sameId : ∀ row, (set_ row).id = row.id)
    (asks : Asks session excused held (LockTarget.slot slotId).forNoKeyUpdate)
    (failed : Follows session excused [] onError)
    (missed : ∀ more, Follows session excused (more ++ held) (next none))
    (went : ∀ slot, slot.id = slotId -> Follows session excused
      ([(LockTarget.slot slotId).forNoKeyUpdate] ++ held) (next (some slot))) :
    Follows session excused held (Program.updateSlot slotId where_ set_ onError next) := by
  unfold Program.updateSlot
  extract_lets update
  apply follows_query failed
  intro _ own
  split
  · exact missed []
  · refine follows_checked (fun lock member => ?_) failed fun own => ?_
    · rw [List.mem_singleton.mp member]
      exact asks
    · cases read : update own with
      | none => exact missed _
      | some versions =>
        rcases Option.map_eq_some_iff.mp read with ⟨old, found, rfl⟩
        refine went _ ?_
        rw [LessonSlot.snapshotOnBook_id, sameId]
        exact key_of_get (Option.filter_eq_some_iff.mp found).1

theorem follows_lockFirst {where_ : PackagePurchase -> Bool}
    {next : Option PackagePurchase -> Program} (ids : List RowId)
    (failed : Follows session excused [] onError)
    (went : ∀ more chosen, Follows session excused (more ++ held) (next chosen)) :
    Follows session excused held (Program.lockFirst where_ onError next ids) := by
  induction ids generalizing held with
  | nil => exact went [] none
  | cons id rest extend =>
    refine follows_locking (fun lock member => ?_) failed fun own => ?_
    · rw [List.mem_singleton.mp member]
      exact asks_unranked rfl
    · split
      · exact went _ _
      · apply extend
        intro more chosen
        rw [← List.append_assoc]
        exact went _ _

theorem follows_insertConsumption {row : PackageConsumption} {next : Bool -> Program}
    (secured : Secured session held (LockTarget.slot row.slotId).forKeyShare)
    (failed : Follows session excused [] onError)
    (went : ∀ more created, Follows session excused (more ++ held) (next created)) :
    Follows session excused held (Program.insertConsumption row onError next) := by
  refine follows_checked (fun lock member => ?_) failed fun own => went _ _
  simp only [List.mem_cons, List.not_mem_nil, or_false] at member
  rcases member with rfl | rfl | rfl
  · exact asks_unranked rfl
  · exact asks_unranked rfl
  · exact asks_secured secured

theorem follows_consumePackageUnit {now durationMinutes : Nat} {accountId teacherId : RowId}
    {actor : Actor} {next : Option RowId -> Program}
    (secured : Secured session held (LockTarget.slot slotId).forKeyShare)
    (failed : Follows session excused [] onError)
    (went : ∀ more consumed, Follows session excused (more ++ held) (next consumed)) :
    Follows session excused held (Program.consumePackageUnit now accountId slotId durationMinutes
      actor teacherId onError next) := by
  refine follows_query failed fun _ own => follows_lockFirst _ failed fun more chosen => ?_
  cases chosen with
  | none => exact went more none
  | some purchase =>
    apply follows_insertConsumption (secured.append more) failed
    intro others created
    rw [← List.append_assoc]
    exact went _ _

theorem follows_restorePackageConsumption {now : Nat} {actor : Actor} {reason : Option String}
    {next : Option RowId -> Program} (failed : Follows session excused [] onError)
    (went : ∀ more restored, Follows session excused (more ++ held) (next restored)) :
    Follows session excused held
      (Program.restorePackageConsumption now slotId actor reason onError next) := by
  refine follows_execute (fun lock member => ?_) failed fun own => went _ _
  rw [List.mem_singleton.mp member]
  exact asks_unranked rfl

theorem follows_classifyBookSlotFailure {input : Program.BookSlot} :
    Follows session excused held (Program.classifyBookSlotFailure input) := by
  refine follows_query trivial fun committed _ => ?_
  split
  · trivial
  · split_ifs
    · trivial
    · trivial
    · refine follows_dateNow trivial fun nowMs => ?_
      split
      · trivial
      · refine follows_query trivial fun _ _ => ?_
        split <;> trivial

theorem follows_billReservedSlot {now : Nat} {input : Program.BookSlot} {slot : LessonSlot}
    (mine : (LockTarget.slot slot.id).forNoKeyUpdate ∈ held) :
    Follows session excused held (Program.billReservedSlot now input slot) := by
  refine follows_query trivial fun _ own => ?_
  split
  · trivial
  · refine follows_query trivial fun _ own => ?_
    split
    · trivial
    · refine follows_consumePackageUnit (secured_of_noKeyUpdate mine) trivial
        fun more consumed => ?_
      cases consumed with
      | some purchaseId => exact ⟨trivial, trivial⟩
      | none =>
        refine follows_query trivial fun committed _ => ?_
        split
        · trivial
        · split
          · trivial
          · exact ⟨trivial, trivial⟩

private theorem below_nil (rank : Nat) : Below [] rank :=
  fun _ mine => absurd mine List.not_mem_nil

private theorem below_cons {low rank : Nat} (ranked : slotOrder.rank lock = some low)
    (lower : low < rank) (below : Below held rank) : Below (lock :: held) rank := by
  intro own mine other read
  rcases List.mem_cons.mp mine with rfl | mine
  · rw [ranked, Option.some.injEq] at read
    exact read ▸ lower
  · exact below own mine other read

theorem follows_lockLearner {learner : UuidText} {next : Program}
    (asks : Asks session excused held (AdvisoryKey.pkgConsume learner).lock)
    (went : Follows session excused ([(AdvisoryKey.pkgConsume learner).lock] ++ held) next) :
    Follows session excused held (Program.lockLearner learner next) := by
  refine follows_locking (fun lock member => ?_) trivial fun _ => went
  rw [List.mem_singleton.mp member]
  exact asks

theorem follows_bookSlot (input : Program.BookSlot) :
    Follows session excused [] (Program.bookSlot input) := by
  refine follows_begin trivial fun now => ?_
  split
  · refine follows_updateSlot (fun _ => rfl) (asks_below rfl (below_nil 1)) trivial
      (fun more => ?_) fun slot _ => ⟨trivial, trivial⟩
    exact follows_classifyBookSlotFailure
  · refine follows_lockLearner (asks_below rfl (below_nil 0)) ?_
    refine follows_updateSlot (fun _ => rfl)
      (asks_below rfl (below_cons rfl Nat.zero_lt_one (below_nil 1))) trivial
      (fun more => ?_) fun slot booked => ?_
    · exact follows_classifyBookSlotFailure
    · refine follows_billReservedSlot ?_
      rw [booked]
      exact List.mem_cons_self

theorem follows_insertBookedSlot {row : LessonSlot} {next : LessonSlot -> Program}
    (minted : row.id.minter = some session) (went : ∀ more slot, slot.id = row.id ->
      Follows session excused (more ++ held) (next slot)) :
    Follows session excused held (Program.insertBookedSlot row next) := by
  refine follows_checkedOr (fun lock member => ?_) trivial (fun _ => trivial) fun own =>
    went _ _ (LessonSlot.snapshotOnBook_id _ _)
  simp only [List.mem_cons, List.not_mem_nil, or_false] at member
  rcases member with rfl | rfl
  · refine asks_secured (Or.inl ?_)
    simp only [slotOrder, LockTarget.forUpdate, minted, decide_true]
  · exact asks_unranked rfl

theorem follows_moveSlot {now newStartAt : Nat} {oldSlot : LessonSlot} {learnerAccountId : RowId}
    {actor : Actor} {restoreReason : String} : Follows session excused held
      (Program.moveSlot session now oldSlot learnerAccountId newStartAt actor restoreReason) := by
  refine follows_restorePackageConsumption trivial fun more restored => ?_
  refine follows_query trivial fun _ own => ?_
  split
  · trivial
  · apply follows_insertBookedSlot rfl
    intro others newSlot inserted
    extract_lets finish
    split
    · exact ⟨trivial, trivial⟩
    · refine follows_consumePackageUnit (Or.inl ?_) trivial fun _ _ => ⟨trivial, trivial⟩
      rw [inserted]
      exact decide_eq_true rfl

private theorem follows_classifyCancelFailure {learnerAccountId : RowId} :
    Follows session excused held (Program.classifyCancelFailure slotId learnerAccountId) := by
  refine follows_query trivial fun committed _ => ?_
  split
  · trivial
  · split_ifs <;> trivial

private theorem follows_classifyTeacherCancelFailure {teacherAccountId : RowId} :
    Follows session excused held
      (Program.classifyTeacherCancelFailure slotId teacherAccountId) := by
  refine follows_query trivial fun committed _ => ?_
  split
  · trivial
  · split_ifs <;> trivial

theorem follows_rescheduleSlotByLearner (slotId learnerAccountId : RowId)
    (newStartAt : Option Nat) (cancelWindowHours : Nat) :
    Follows session excused [] (Program.rescheduleSlotByLearner session slotId learnerAccountId
      newStartAt cancelWindowHours) := by
  unfold Program.rescheduleSlotByLearner
  split
  · trivial
  · refine follows_dateNow trivial fun nowMs => ?_
    split
    · trivial
    · split
      · trivial
      · refine follows_begin trivial fun now => ?_
        refine follows_lockLearner (asks_below rfl (below_nil 0)) ?_
        exact follows_updateSlot (fun _ => rfl)
          (asks_below rfl (below_cons rfl Nat.zero_lt_one (below_nil 1))) trivial
          (fun more => follows_classifyCancelFailure) fun slot _ => follows_moveSlot

theorem follows_rescheduleSlotByTeacher (slotId teacherAccountId : RowId)
    (newStartAt : Option Nat) (reason : Option String)
    (learnerLate : ∀ key, excused (AdvisoryKey.lock key)) :
    Follows session excused [] (Program.rescheduleSlotByTeacher session slotId teacherAccountId
      newStartAt reason) := by
  unfold Program.rescheduleSlotByTeacher
  generalize jsTrim (reason.getD "") = trimmedReason
  by_cases short : jsLength trimmedReason < 5
  · simp only [short, if_true]
    trivial
  · simp only [short, if_false]
    split
    · trivial
    · refine follows_dateNow trivial fun nowMs => ?_
      split
      · trivial
      · split
        · trivial
        · refine follows_begin trivial fun now => ?_
          refine follows_updateSlot (fun _ => rfl) (asks_below rfl (below_nil 1)) trivial
            (fun more => follows_classifyTeacherCancelFailure) fun slot _ => ?_
          dsimp only
          split
          · trivial
          · exact follows_lockLearner (Or.inl (learnerLate _)) follows_moveSlot

/-! ## Marks -/

theorem follows_setSlot {set_ : LessonSlot -> LessonSlot} {next : Program}
    (sameId : ∀ row, (set_ row).id = row.id) (mine : (LockTarget.slot slotId).forUpdate ∈ held)
    (went : ∀ more, Follows session excused (more ++ held) next) :
    Follows session excused held (Program.setSlot slotId set_ next) :=
  follows_updateSlot sameId (asks_secured (secured_of_update mine _)) trivial went
    fun _ _ => went _

theorem follows_setWasNoShow {completionId : RowId} {wasNoShow : Bool} {next : Program}
    (mine : (LockTarget.completion completionId).forUpdate ∈ held)
    (went : ∀ more, Follows session excused (more ++ held) next) :
    Follows session excused held (Program.setWasNoShow completionId wasNoShow next) := by
  refine follows_execute (fun lock member => ?_) trivial fun _ => went _
  rw [List.mem_singleton.mp member]
  exact asks_secured (secured_of_update mine _)

theorem follows_insertCompletion {now : Nat} {row : LessonCompletion} {next : Program}
    (minted : row.id.minter = some session) (mine : (LockTarget.slot row.slotId).forUpdate ∈ held)
    (failed : Follows session excused [] onError)
    (went : ∀ more, Follows session excused (more ++ held) next) :
    Follows session excused held (Program.insertCompletion now row onError next) := by
  refine follows_checked (fun lock member => ?_) failed fun _ => went _
  simp only [Program.insertCompletionLocks, List.mem_cons, List.not_mem_nil, or_false] at member
  rcases member with rfl | rfl | rfl | rfl
  · refine asks_secured (Or.inl ?_)
    simp only [slotOrder, LockTarget.forUpdate, minted, decide_true]
  · exact asks_unranked rfl
  · exact asks_secured (secured_of_update mine _)
  · exact asks_secured (secured_of_update mine _)

theorem follows_deleteCompletion {begunAt judgedAt : Nat} {row : LessonCompletion}
    {onRaise : String -> Program} {next : Program}
    (mine : (LockTarget.completion row.id).forUpdate ∈ held)
    (asks : Asks session excused held (LockTarget.slot row.slotId).forNoKeyUpdate)
    (failed : Follows session excused [] onError)
    (raised : ∀ message, Follows session excused [] (onRaise message))
    (went : ∀ more, Follows session excused (more ++ held) next) : Follows session excused held
      (Program.deleteCompletion begunAt judgedAt row onError onRaise next) := by
  refine follows_checkedOr (fun lock member => ?_) failed raised fun _ => went _
  simp only [List.mem_cons, List.not_mem_nil, or_false] at member
  rcases member with rfl | rfl | rfl
  · exact asks_secured (secured_of_update mine _)
  · exact asks_unranked rfl
  · exact asks

/-- The completion a change of the mark works on belongs to the slot and is locked. -/
def ChainLocked (held : List Lock) (chain : Program.LessonChain) : Prop :=
  (LockTarget.slot chain.slotId).forUpdate ∈ held ∧
    ∀ row, chain.completionRow = some row ->
      row.slotId = chain.slotId ∧ (LockTarget.completion row.id).forUpdate ∈ held

private theorem ChainLocked.append {chain : Program.LessonChain} (locked : ChainLocked held chain)
    (more : List Lock) : ChainLocked (more ++ held) chain :=
  ⟨List.mem_append_right more locked.1, fun row found =>
    ⟨(locked.2 row found).1, List.mem_append_right more (locked.2 row found).2⟩⟩

private theorem follows_chainDelete {now judgedAt : Nat} {chain : Program.LessonChain}
    {row : LessonCompletion} {onRaise : String -> Program} {next : Program}
    (locked : ChainLocked held chain) (found : chain.completionRow = some row)
    (raised : ∀ message, Follows session excused [] (onRaise message))
    (went : ∀ more, Follows session excused (more ++ held) next) : Follows session excused held
      (Program.deleteCompletion now judgedAt row Program.thrown onRaise next) := by
  rcases locked.2 row found with ⟨placed, mine⟩
  refine follows_deleteCompletion mine (asks_secured ?_) trivial raised went
  rw [placed]
  exact secured_of_update locked.1 _

theorem follows_applyLessonChainInTx {now : Nat} {chain : Program.LessonChain}
    {refuse : String -> Program} {next : Program} (locked : ChainLocked held chain)
    (refused : ∀ reason more, Follows session excused (more ++ held) (refuse reason))
    (went : ∀ more, Follows session excused (more ++ held) next) : Follows session excused held
      (Program.applyLessonChainInTx session now chain refuse next) := by
  have further : ∀ others more, Follows session excused (more ++ (others ++ held)) next := by
    intro others more
    rw [← List.append_assoc]
    exact went _
  have furthest : ∀ first second more,
      Follows session excused (more ++ (second ++ (first ++ held))) next := by
    intro first second more
    rw [← List.append_assoc, ← List.append_assoc]
    exact went _
  have slotHeld : ∀ more, (LockTarget.slot chain.slotId).forUpdate ∈ more ++ held :=
    fun more => List.mem_append_right more locked.1
  unfold Program.applyLessonChainInTx
  extract_lets keepMarkedAt missingSnapshot
  split
  · split
    · exact refused _ []
    · next row found =>
      apply follows_setWasNoShow (locked.2 row found).2
      intro more
      exact follows_setSlot (fun _ => rfl) (slotHeld more) (further more)
  · split
    · exact refused _ []
    · next row found =>
      apply follows_setWasNoShow (locked.2 row found).2
      intro more
      exact follows_setSlot (fun _ => rfl) (slotHeld more) (further more)
  · split
    · exact refused _ []
    · next row found => exact follows_chainDelete locked found (fun _ => trivial) went
  · split
    · exact refused _ []
    · next row found => exact follows_chainDelete locked found (fun _ => trivial) went
  · split
    · exact refused _ []
    · next row found =>
      refine follows_chainDelete locked found (fun _ => trivial) fun more => ?_
      exact follows_setSlot (fun _ => rfl) (slotHeld more) (further more)
  · split
    · exact refused _ []
    · next row found =>
      refine follows_chainDelete locked found (fun _ => trivial) fun more => ?_
      exact follows_setSlot (fun _ => rfl) (slotHeld more) (further more)
  · split
    · exact refused _ []
    · refine follows_insertCompletion rfl locked.1 trivial fun more => ?_
      exact follows_setSlot (fun _ => rfl) (slotHeld more) (further more)
  · split
    · exact refused _ []
    · refine follows_insertCompletion rfl locked.1 trivial fun more => ?_
      exact follows_setSlot (fun _ => rfl) (slotHeld more) (further more)
  · exact follows_setSlot (fun _ => rfl) locked.1 went
  · exact follows_setSlot (fun _ => rfl) locked.1 went
  · split
    · exact refused _ []
    · refine follows_setSlot (fun _ => rfl) locked.1 fun first => ?_
      refine follows_insertCompletion rfl (slotHeld first) trivial fun second => ?_
      exact follows_setSlot (fun _ => rfl) (List.mem_append_right second (slotHeld first))
        (furthest first second)
  · split
    · exact refused _ []
    · refine follows_setSlot (fun _ => rfl) locked.1 fun first => ?_
      refine follows_insertCompletion rfl (slotHeld first) trivial fun second => ?_
      exact follows_setSlot (fun _ => rfl) (List.mem_append_right second (slotHeld first))
        (furthest first second)
  · exact refused _ []

theorem follows_changeLockedLesson {now expectedUpdatedAt : Nat} {teacherAccountId : RowId}
    {toStatus : LessonTargetStatus} (below : Below held 1) :
    Follows session excused held (Program.changeLockedLesson session now slotId teacherAccountId
      toStatus expectedUpdatedAt) := by
  refine follows_locking (fun lock member => ?_) trivial fun own => ?_
  · rw [List.mem_singleton.mp member]
    exact asks_below rfl below
  have below : Below ([(LockTarget.slot slotId).forUpdate] ++ held) 2 := by
    apply below_cons rfl (by decide)
    intro own mine low read
    exact Nat.lt_succ_of_lt (below own mine low read)
  split
  · trivial
  · split
    · trivial
    · refine follows_dateNow trivial fun nowMs => ?_
      split
      · trivial
      · split
        · trivial
        · refine follows_query trivial fun _ own => ?_
          extract_lets found completionLocks
          refine follows_locking (fun lock member => ?_) trivial fun own => ?_
          · cases read : found with
            | none => simp [completionLocks, read] at member
            | some original =>
              simp only [completionLocks, read, List.mem_singleton] at member
              rw [member]
              exact asks_below rfl below
          refine follows_dateNow trivial fun judgedAt => ?_
          extract_lets completionRow finish
          have finished : Follows session excused
              (completionLocks ++ ([(LockTarget.slot slotId).forUpdate] ++ held)) finish := by
            refine follows_applyLessonChainInTx ⟨?_, fun row looked => ?_⟩
              (fun _ _ => trivial) fun more => ?_
            · exact List.mem_append_right _ List.mem_cons_self
            · rcases relooked_eq_some looked with ⟨original, read, same, -, placed⟩
              refine ⟨placed, List.mem_append_left _ ?_⟩
              simp only [completionLocks, read, List.mem_singleton, same]
            · exact follows_setSlot (fun _ => rfl)
                (List.mem_append_right _ (List.mem_append_right _ List.mem_cons_self))
                fun _ => ⟨trivial, trivial⟩
          split
          · exact finished
          · split
            · trivial
            · refine follows_query trivial fun _ own => ?_
              split
              · trivial
              · refine follows_query trivial fun _ own => ?_
                split
                · trivial
                · exact finished

theorem follows_changeLessonStatus (slotId teacherAccountId : RowId)
    (toStatus : LessonTargetStatus) (expectedUpdatedAt : Nat) :
    Follows session excused [] (Program.changeLessonStatus session slotId teacherAccountId
      toStatus expectedUpdatedAt) := by
  unfold Program.changeLessonStatus
  refine follows_begin trivial fun now => ?_
  refine follows_query trivial fun _ own => ?_
  split
  · trivial
  · split
    · trivial
    · split
      · trivial
      · split
        · trivial
        · split
          · trivial
          · exact follows_lockLearner (asks_below rfl (below_nil 0))
              (follows_changeLockedLesson (below_cons rfl Nat.zero_lt_one (below_nil 1)))

theorem follows_uncomplete (teacherAccountId completionId : RowId)
    (slotLate : ∀ slotId, excused (LockTarget.slot slotId).forNoKeyUpdate) :
    Follows session excused [] (Program.uncomplete teacherAccountId completionId) := by
  unfold Program.uncomplete
  extract_lets onError refuse
  refine follows_begin trivial fun now => ?_
  refine follows_locking (fun lock member => ?_) trivial fun own => ?_
  · rw [List.mem_singleton.mp member]
    exact asks_below rfl (below_nil 2)
  split
  · trivial
  · next row found =>
    have key : row.id = completionId := key_of_get found
    split
    · trivial
    · refine follows_dateNow trivial fun nowMs => ?_
      split
      · trivial
      · refine follows_query trivial fun _ own => ?_
        split
        · trivial
        · refine follows_query trivial fun _ own => ?_
          split
          · trivial
          · refine follows_deleteCompletion ?_ (Or.inl (slotLate _)) trivial
              (fun message => ?_) fun more => ⟨trivial, trivial⟩
            · rw [key]
              exact List.mem_cons_self
            · unfold Program.uncompleteRaised
              split_ifs <;> trivial

theorem follows_cancelWhere {now : Nat} {where_ : Db -> LessonSlot -> Bool}
    {cancelledAt : LessonSlot -> Nat} {cancelledByAccountId : RowId} {reason : Option String}
    {actor : Actor} {restoreReason : String} {cancelled missed : Program}
    (went : Follows session excused [] cancelled) (nothing : Follows session excused [] missed) :
    Follows session excused [] (Program.cancelWhere now slotId where_ cancelledAt
      cancelledByAccountId reason actor restoreReason cancelled missed) :=
  follows_updateSlot (fun _ => rfl) (asks_below rfl (below_nil 1)) trivial (fun _ => nothing)
    fun _ _ => follows_restorePackageConsumption trivial fun _ _ => ⟨trivial, went⟩

theorem follows_cancelSlot (slotId cancelledByAccountId : RowId) (reason : Option String)
    (actor : Actor) :
    Follows session excused [] (Program.cancelSlot slotId cancelledByAccountId reason actor) := by
  unfold Program.cancelSlot
  by_cases long : reasonTooLong reason = true
  · rw [if_pos long]
    trivial
  · rw [if_neg long]
    refine follows_query trivial fun committed _ => ?_
    split
    · trivial
    · exact follows_begin trivial fun now => follows_cancelWhere trivial trivial

theorem follows_cancelLearnerSlot (slotId learnerAccountId : RowId) (reason : Option String)
    (envFallbackMinutes : Nat) : Follows session excused []
      (Program.cancelLearnerSlot slotId learnerAccountId reason envFallbackMinutes) := by
  unfold Program.cancelLearnerSlot
  by_cases long : reasonTooLong reason = true
  · rw [if_pos long]
    trivial
  · rw [if_neg long]
    refine follows_begin trivial fun now => follows_cancelWhere trivial ?_
    refine follows_query trivial fun committed _ => ?_
    split
    · trivial
    · split_ifs <;> trivial

theorem follows_cancelSlotByTeacher (slotId teacherAccountId : RowId) (reason : Option String) :
    Follows session excused [] (Program.cancelSlotByTeacher slotId teacherAccountId reason) := by
  unfold Program.cancelSlotByTeacher
  by_cases long : reasonTooLong reason = true
  · rw [if_pos long]
    trivial
  · rw [if_neg long]
    refine follows_begin trivial fun now => follows_cancelWhere trivial ?_
    refine follows_query trivial fun committed _ => ?_
    split
    · trivial
    · split_ifs <;> trivial

attribute [local irreducible] Program.rescheduleSlotByTeacher in
theorem SlotWriter.follows (writer : SlotWriter) (session : Nat) :
    Follows session (fun lock => writer.outOfOrder lock = true) [] (writer.program session) := by
  cases writer with
  | bookSlot input => exact follows_bookSlot input
  | rescheduleSlotByLearner slotId learnerAccountId newStartAt cancelWindowHours =>
    exact follows_rescheduleSlotByLearner slotId learnerAccountId newStartAt cancelWindowHours
  | rescheduleSlotByTeacher slotId teacherAccountId newStartAt reason =>
    exact follows_rescheduleSlotByTeacher slotId teacherAccountId newStartAt reason fun _ => rfl
  | changeLessonStatus slotId teacherAccountId toStatus expectedUpdatedAt =>
    exact follows_changeLessonStatus slotId teacherAccountId toStatus expectedUpdatedAt
  | uncomplete teacherAccountId completionId =>
    exact follows_uncomplete teacherAccountId completionId fun _ => rfl
  | cancelSlot slotId cancelledByAccountId reason actor =>
    exact follows_cancelSlot slotId cancelledByAccountId reason actor
  | cancelLearnerSlot slotId learnerAccountId reason envFallbackMinutes =>
    exact follows_cancelLearnerSlot slotId learnerAccountId reason envFallbackMinutes
  | cancelSlotByTeacher slotId teacherAccountId reason =>
    exact follows_cancelSlotByTeacher slotId teacherAccountId reason

/-- Any set of slot writers is free of deadlock as long as no request out of order is for
a lock of a session that waits itself. -/
theorem slot_writers_not_deadlocked (db : Db) (writers : Nat -> SlotWriter) (state : State)
    (reached : Reaches store (fun _ _ => True) (writersOpening db writers) state)
    (unexcused : state.Unexcused slotOrder store fun session lock =>
      (writers session).outOfOrder lock = true) : ¬ state.Deadlocked slotOrder store :=
  (ordered_of_reaches (fun session => (writers session).follows session) reached).not_deadlocked
    slotOrder_respects unexcused

def bookedLesson : LessonSlot :=
  Program.bookedSlot (.seeded 10) (.seeded 1) (.seeded 2) (2 * 86400000 + 9 * 3600000) 60 none 0

def bookedDb : Db :=
  { Db.empty with slots := [bookedLesson] }

/-- The learner and the teacher move the lesson, to different hours of the next day.
Everybody else cancels it. -/
def movedTwice : Nat -> SlotWriter
  | 0 => .rescheduleSlotByLearner bookedLesson.id (.seeded 2)
      (some (3 * 86400000 + 9 * 3600000)) 24
  | 1 => .rescheduleSlotByTeacher bookedLesson.id (.seeded 1)
      (some (3 * 86400000 + 10 * 3600000)) (some "on leave")
  | _ => .cancelSlot bookedLesson.id (.seeded 1) none .teacher

/-- The learner's request has the advisory lock and the teacher's the slot. -/
theorem slot_writers_deadlocked : ¬ ∀ (db : Db) (writers : Nat -> SlotWriter) (state : State),
      Reaches store (fun _ _ => True) (writersOpening db writers) state ->
        ¬ state.Deadlocked slotOrder store := by
  intro free
  rcases exists_state_of_play store (writersOpening bookedDb movedTwice)
    (turns 0 4 ++ turns 1 4)
    (fun state => state.waitsFor slotOrder store 0 1 && state.waitsFor slotOrder store 1 0)
    (by decide +kernel) with ⟨state, reached, waits⟩
  rcases Bool.and_eq_true_iff.mp waits with ⟨learner, teacher⟩
  exact free bookedDb movedTwice state reached
    ⟨0, Relation.TransGen.tail (Relation.TransGen.single learner) teacher⟩

/-- Where the learner's request has both locks, the teacher's waits for the slot and
nobody waits for the learner. -/
theorem slot_writers_not_deadlocked_moving :
    ∃ state, Reaches store (fun _ _ => True) (writersOpening bookedDb movedTwice) state ∧
      state.waitsFor slotOrder store 1 0 = true ∧ ¬ state.Deadlocked slotOrder store := by
  rcases exists_state_of_play store (writersOpening bookedDb movedTwice)
    (turns 0 4 ++ turns 1 3 ++ turns 0 1)
    (fun state => state.waitsFor slotOrder store 1 0 &&
      (state.sessions 1).requested.all fun lock => !(movedTwice 1).outOfOrder lock)
    (by decide +kernel) with ⟨state, reached, waits⟩
  rcases Bool.and_eq_true_iff.mp waits with ⟨waits, inOrder⟩
  refine ⟨state, reached, waits,
    slot_writers_not_deadlocked bookedDb movedTwice state reached ?_⟩
  intro session other _ _ lock asked _ _ _ late
  match session with
  | 0 => cases late
  | 1 =>
    have kept := List.all_eq_true.mp inOrder lock asked
    rw [late] at kept
    cases kept
  | _ + 2 => cases late

end LevelChannel.Scheduling
