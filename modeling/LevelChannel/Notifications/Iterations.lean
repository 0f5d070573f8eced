import Mathlib.Data.List.Induction
import Mathlib.Data.List.Pairwise
import LevelChannel.Payments.SbpRefunds
import LevelChannel.ReadCommitted.Sessions

namespace LevelChannel.SbpRefunds

open ReadCommitted Tables

/-!
# Iterations of notifications

The key under which a notification is sent once is made from the kind of the event, the
slot or claim, the channel and an iteration, and it is for the caller to give two events
different iterations.  A changed status always comes with the first one.  A refund comes
with the whole roubles that were given back before it, so that a refund of some kopecks
may leave the next one with the same iteration.

This module says when the keys of all that is dispatched are different: no second notice
of a changed status for a slot, and no refund on top of one that did not complete a rouble.
-/

/-- `interval '1 day'` of the rate limit. -/
def dayMs : Nat := 24 * 60 * 60 * 1000

namespace SbpDb

/-- `isStatusChangeNotifyRateLimited` -/
def statusChangeNotifyRateLimited (db : SbpDb) (teacherAccountId slotId : RowId) : Bool :=
  db.statusChanges.any fun change =>
    change.actorAccountId = teacherAccountId && change.slotId = slotId &&
      change.notifyDispatchedAt.isSome && db.core.clock < change.ts + dayMs

def statusChange? (db : SbpDb) (id : RowId) : Option StatusChange :=
  get StatusChange.id db.statusChanges id

end SbpDb

/-- The audit row of a status change; `updated_at` has just become the time of the
transaction, which is what `ts` defaults to. -/
def auditRow (session : Nat) (slotId teacherAccountId : RowId) (slot : LessonSlot) :
    StatusChange where
  id := .minted session 0
  slotId := slotId
  actorAccountId := teacherAccountId
  learnerAccountId := slot.learnerAccountId
  ts := slot.updatedAt
  notifyDispatchedAt := none

def statusChanged (slotId : RowId) (learnerAccountId : RowId) : Dispatch where
  kind := .lessonStatusChangedByTeacher
  ctx :=
    { slotId := some slotId
      claimId := none
      refundId := none
      recipientAccountId := learnerAccountId
      recipientRole := .learner
      iterSeq := 1 }

namespace SbpProgram

/-- `changeLessonStatus` with its audit row, which the model of the slots leaves out. -/
def changeLessonStatus (session : Nat) (slotId teacherAccountId : RowId)
    (toStatus : LessonTargetStatus) (expectedUpdatedAt : Nat) : SbpProgram :=
  ((Program.changeLessonStatus session slotId teacherAccountId toStatus
      expectedUpdatedAt).within SbpDb.core SbpWrite.core).beforeCommit .plain fun own =>
    (own.core.slot? slotId).toList.map fun slot =>
      .statusChange (.insert (auditRow session slotId teacherAccountId slot))

/-- `markAuditNotifyDispatched`, whose failures are swallowed. -/
def markAuditNotifyDispatched (auditId : RowId) (next : SbpProgram) : SbpProgram :=
  .statement .plain [] next
    (fun _ own => (own.statusChange? auditId).toList.map fun change =>
      .statusChange (.replace { change with notifyDispatchedAt := some own.core.clock }))
    fun _ _ => .commit next next

/-- `POST /api/teacher/slots/[id]/change-status`, after the checks of the body. -/
def changeStatus (session : Nat) (slotId teacherAccountId : RowId)
    (toStatus : LessonTargetStatus) (expectedUpdatedAt : Nat) (notifyLearner : Bool) : SbpProgram :=
  (changeLessonStatus session slotId teacherAccountId toStatus expectedUpdatedAt).andThen
    fun reply =>
      if reply = .returned "ok" [] ∧ notifyLearner then
        let answered : SbpProgram := .done (.json 200 [slotId])
        .reading .plain answered fun committed _ =>
          if committed.statusChangeNotifyRateLimited teacherAccountId slotId then answered
          else
            match (committed.statusChange? (.minted session 0)).bind
                StatusChange.learnerAccountId with
            | none => answered
            | some learnerAccountId =>
              dispatch (statusChanged slotId learnerAccountId)
                (markAuditNotifyDispatched (.minted session 0) answered)
      else .done reply

end SbpProgram

/-- Two events have different keys on every channel. -/
def KeysDiffer (first second : Dispatch) : Prop :=
  ∀ channel, Notifications.dedupKey first.kind first.ctx channel ≠
    Notifications.dedupKey second.kind second.ctx channel

def KeysDistinct (db : SbpDb) : Prop :=
  db.dispatches.Pairwise KeysDiffer

def givenBack (refunds : List PaymentRefund) (claimId : RowId) : List Nat :=
  (refunds.filter fun refund => refund.claimId = claimId).map PaymentRefund.amountKopecks

structure Stamp where
  refundId : RowId
  claimId : RowId
  iterSeq : Nat
  deriving DecidableEq

def stamps : List PaymentRefund -> List PaymentRefund -> List Stamp
  | _, [] => []
  | before, refund :: rest =>
    ⟨refund.id, refund.claimId, refundIterSeq (givenBack before refund.claimId).sum⟩ ::
      stamps (before ++ [refund]) rest

def StampsApart (refunds : List PaymentRefund) : Prop :=
  (stamps [] refunds).Pairwise fun first second =>
    first.claimId = second.claimId -> first.iterSeq ≠ second.iterSeq

def RoubleCompleted (refunds : List PaymentRefund) (claimId : RowId) : Prop :=
  givenBack refunds claimId = [] ∨
    (givenBack refunds claimId).dropLast.sum / 100 < (givenBack refunds claimId).sum / 100

def StatusOnce (db : SbpDb) : Prop :=
  db.dispatches.Pairwise fun first second => first.kind = .lessonStatusChangedByTeacher ->
    second.kind = .lessonStatusChangedByTeacher -> first.ctx.slotId ≠ second.ctx.slotId

def OfRefund (refunds : List PaymentRefund) (event : Dispatch) : Prop :=
  event.kind = .paymentRefundIssued ∧ ∃ stamp, stamp ∈ stamps [] refunds ∧
    event.ctx.refundId = some stamp.refundId ∧ event.ctx.slotId = none ∧
      event.ctx.claimId = some stamp.claimId ∧ event.ctx.iterSeq = stamp.iterSeq

def OfStatus (event : Dispatch) : Prop :=
  event.kind = .lessonStatusChangedByTeacher ∧ event.ctx.slotId.isSome

/-- Everything that was dispatched is a refund, each of which comes once, or a changed
status. -/
structure Dispatched (db : SbpDb) : Prop where
  unique : Tables.Unique PaymentRefund.id db.refunds
  each : ∀ event, event ∈ db.dispatches -> OfRefund db.refunds event ∨ OfStatus event
  once : db.dispatches.Pairwise fun first second => first.kind = .paymentRefundIssued ->
    second.kind = .paymentRefundIssued -> first.ctx.refundId ≠ second.ctx.refundId

theorem refundIterSeq_eq (existing : Nat) : refundIterSeq existing = existing / 100 + 1 := by
  rw [refundIterSeq]
  split
  · rfl
  · omega

section Stamps

variable {refunds : List PaymentRefund} {claimId : RowId}

theorem stamps_append (before refunds : List PaymentRefund) (row : PaymentRefund) :
    stamps before (refunds ++ [row]) = stamps before refunds ++
      [⟨row.id, row.claimId, refundIterSeq (givenBack (before ++ refunds) row.claimId).sum⟩] := by
  induction refunds generalizing before with
  | nil => simp [stamps]
  | cons first rest extend =>
    rw [List.cons_append, stamps, extend, stamps, List.cons_append, List.append_assoc,
      List.singleton_append]

theorem givenBack_append (refunds : List PaymentRefund) (row : PaymentRefund)
    (claimId : RowId) : givenBack (refunds ++ [row]) claimId =
      givenBack refunds claimId ++ if row.claimId = claimId then [row.amountKopecks] else [] := by
  rw [givenBack, List.filter_append, List.map_append]
  by_cases same : row.claimId = claimId <;> simp [givenBack, same]

theorem map_refundId_stamps (before refunds : List PaymentRefund) :
    (stamps before refunds).map Stamp.refundId = refunds.map PaymentRefund.id := by
  induction refunds generalizing before with
  | nil => rfl
  | cons first rest extend => rw [stamps, List.map_cons, extend, List.map_cons]

private theorem map_claimId_stamps (before refunds : List PaymentRefund) :
    (stamps before refunds).map Stamp.claimId = refunds.map PaymentRefund.claimId := by
  induction refunds generalizing before with
  | nil => rfl
  | cons first rest extend => rw [stamps, List.map_cons, extend, List.map_cons]

theorem givenBack_ne_nil {stamp : Stamp} (member : stamp ∈ stamps [] refunds) :
    givenBack refunds stamp.claimId ≠ [] := by
  have listed : stamp.claimId ∈ refunds.map PaymentRefund.claimId := by
    rw [← map_claimId_stamps [] refunds]
    exact List.mem_map_of_mem member
  rcases List.mem_map.mp listed with ⟨refund, there, same⟩
  apply List.ne_nil_of_mem
  exact List.mem_map_of_mem (List.mem_filter.mpr ⟨there, decide_eq_true same⟩)

private theorem sum_dropLast_le (list : List Nat) : list.dropLast.sum ≤ list.sum := by
  induction list using List.reverseRecOn with
  | nil => exact Nat.le_refl _
  | append_singleton list last _ =>
    rw [List.dropLast_concat, List.sum_append]
    exact Nat.le_add_right _ _

theorem iterSeq_le {stamp : Stamp} (member : stamp ∈ stamps [] refunds) :
    stamp.iterSeq ≤ (givenBack refunds stamp.claimId).dropLast.sum / 100 + 1 := by
  induction refunds using List.reverseRecOn with
  | nil => cases member
  | append_singleton refunds row extend =>
    rw [stamps_append] at member
    rw [givenBack_append]
    rcases List.mem_append.mp member with old | new
    · have bound := extend old
      by_cases same : row.claimId = stamp.claimId
      · rw [if_pos same, List.dropLast_concat]
        have shorter := sum_dropLast_le (givenBack refunds stamp.claimId)
        omega
      · rw [if_neg same, List.append_nil]
        exact bound
    · rw [List.mem_singleton.mp new]
      dsimp only
      apply Nat.le_of_eq
      rw [if_pos rfl, List.dropLast_concat, refundIterSeq_eq, List.nil_append]

theorem stampsApart_append (row : PaymentRefund) (apart : StampsApart refunds)
    (completed : RoubleCompleted refunds row.claimId) : StampsApart (refunds ++ [row]) := by
  rw [StampsApart, stamps_append, List.pairwise_append]
  refine ⟨apart, List.pairwise_singleton _ _, ?_⟩
  intro stamp member last single same
  rw [List.mem_singleton.mp single] at same ⊢
  have bound := iterSeq_le member
  have some := givenBack_ne_nil member
  dsimp only at same ⊢
  rw [refundIterSeq_eq, List.nil_append]
  rw [same] at bound some
  rcases completed with none | more
  · exact absurd none some
  · omega

end Stamps

private theorem keysDiffer_of_iterSeq {first second : Dispatch}
    (differ : first.ctx.iterSeq ≠ second.ctx.iterSeq) : KeysDiffer first second := by
  intro channel same
  exact differ (congrArg Notifications.DedupKey.iterSeq same)

private theorem keysDiffer_of_relatedId {first second : Dispatch}
    (differ : Notifications.relatedId first.ctx ≠ Notifications.relatedId second.ctx) :
    KeysDiffer first second := by
  intro channel same
  exact differ (congrArg Notifications.DedupKey.relatedId same)

private theorem keysDiffer_of_kind {first second : Dispatch} (differ : first.kind ≠ second.kind) :
    KeysDiffer first second := by
  intro channel same
  exact differ (congrArg Notifications.DedupKey.kind same)

theorem keysDistinct {db : SbpDb} (dispatched : Dispatched db) (apart : StampsApart db.refunds)
    (once : StatusOnce db) : KeysDistinct db := by
  have stampsDiffer : ∀ one, one ∈ stamps [] db.refunds -> ∀ two,
      two ∈ stamps [] db.refunds -> one ≠ two -> one.claimId = two.claimId ->
        one.iterSeq ≠ two.iterSeq := by
    intro one memberOne two memberTwo different
    have symmetric : Std.Symm fun first second : Stamp =>
        first.claimId = second.claimId -> first.iterSeq ≠ second.iterSeq :=
      ⟨fun _ _ differ same => (differ same.symm).symm⟩
    exact apart.forall memberOne memberTwo different
  apply (dispatched.once.and once).imp_of_mem
  rintro first second memberFirst memberSecond ⟨refundOnce, statusOnce⟩
  rcases dispatched.each first memberFirst with
    ⟨refund, one, listedOne, idOne, slotOne, claimOne, seqOne⟩ | ⟨status, slot⟩
  · rcases dispatched.each second memberSecond with
      ⟨refundToo, two, listedTwo, idTwo, slotTwo, claimTwo, seqTwo⟩ | ⟨status, slot⟩
    · have different : one ≠ two := by
        rintro rfl
        exact refundOnce refund refundToo (idOne.trans idTwo.symm)
      by_cases same : one.claimId = two.claimId
      · apply keysDiffer_of_iterSeq
        rw [seqOne, seqTwo]
        exact stampsDiffer one listedOne two listedTwo different same
      · apply keysDiffer_of_relatedId
        simp only [Notifications.relatedId, slotOne, claimOne, slotTwo, claimTwo]
        simpa using same
    · apply keysDiffer_of_kind
      rw [refund, status]
      decide
  · rcases dispatched.each second memberSecond with ⟨refund, -⟩ | ⟨statusToo, slotToo⟩
    · apply keysDiffer_of_kind
      rw [refund, status]
      decide
    · apply keysDiffer_of_relatedId
      rcases Option.isSome_iff_exists.mp slot with ⟨one, isOne⟩
      rcases Option.isSome_iff_exists.mp slotToo with ⟨two, isTwo⟩
      have differ := statusOnce status statusToo
      rw [isOne, isTwo] at differ
      simp only [Notifications.relatedId, isOne, isTwo]
      simpa using differ

/-! ## What a session may add -/

/-- A session adds a refund of its own to a claim it has locked, or dispatches an event,
which is about its own refund if it is about one. -/
structure Issues (session : Nat) (held : List Lock) (before after : SbpDb) : Prop where
  refunds : after.refunds = before.refunds ∨ ∃ row,
    after.refunds = before.refunds ++ [row] ∧ row.id = .minted session 0 ∧
      WriteLocked held (.claim row.claimId)
  dispatches : after.dispatches = before.dispatches ∨ ∃ event,
    after.dispatches = before.dispatches ++ [event] ∧
      (event.kind = .paymentRefundIssued -> event.ctx.refundId = some (.minted session 0))

def issuing : Contract SbpDb Lock where
  Good := Dispatched
  Guarantee := Issues

/-- Neither the refunds nor the dispatched events change. -/
def SameNotices (before after : SbpDb) : Prop :=
  after.refunds = before.refunds ∧ after.dispatches = before.dispatches

theorem SameNotices.dispatched {before after : SbpDb} (same : SameNotices before after)
    (dispatched : Dispatched before) : Dispatched after where
  unique := same.1.symm ▸ dispatched.unique
  each event member := by
    rw [same.1]
    exact dispatched.each event (same.2 ▸ member)
  once := same.2.symm ▸ dispatched.once

theorem SameNotices.issues {before after : SbpDb} (same : SameNotices before after)
    (session : Nat) (held : List Lock) : Issues session held before after :=
  ⟨Or.inl same.1, Or.inl same.2⟩

theorem issuing_steady : Contract.Steady issuing sbpStore where
  drift change db good :=
    have same : SameNotices db (sbpStore.drift change db) := ⟨rfl, rfl⟩
    same.dispatched good
  close session held db good :=
    have same : SameNotices db (sbpStore.close session db) := ⟨rfl, rfl⟩
    ⟨same.dispatched good, same.issues session held⟩

section Facts

variable {session : Nat} {held : List Lock} {claimId : RowId}

theorem givenBack_stable (session : Nat) (locked : WriteLocked held (.claim claimId))
    (amounts : List Nat) :
    issuing.Stable sbpStore session held fun now => givenBack now.refunds claimId = amounts := by
  rintro before after read ⟨-, -, ⟨change, rfl⟩ | ⟨other, theirs, -, apart, kept⟩⟩
  · exact read
  · rcases kept.refunds with same | ⟨row, appended, -, theirLock⟩
    · rw [same]
      exact read
    · have elsewhere : row.claimId ≠ claimId := by
        rintro rfl
        exact locked.excludes apart theirLock
      rw [appended, givenBack_append, if_neg elsewhere, List.append_nil]
      exact read

theorem unrecorded_stable (session : Nat) (held : List Lock) :
    issuing.Stable sbpStore session held fun now =>
      ∀ refund, refund ∈ now.refunds -> refund.id ≠ .minted session 0 := by
  rintro before after none ⟨-, -, ⟨change, rfl⟩ | ⟨other, theirs, different, -, kept⟩⟩
  · exact none
  · rcases kept.refunds with same | ⟨row, appended, own, -⟩
    · rw [same]
      exact none
    · intro refund member
      rw [appended] at member
      rcases List.mem_append.mp member with old | new
      · exact none refund old
      · rw [List.mem_singleton.mp new, own]
        intro same
        exact different (RowId.minted.inj same).1

/-- The refund is recorded with its iteration, and nothing was dispatched for it. -/
structure Recorded (session : Nat) (stamp : Stamp) (db : SbpDb) : Prop where
  stamped : stamp ∈ stamps [] db.refunds
  unsent : ∀ event, event ∈ db.dispatches -> event.kind = .paymentRefundIssued ->
    event.ctx.refundId ≠ some (.minted session 0)

theorem recorded_stable (session : Nat) (held : List Lock) (stamp : Stamp) :
    issuing.Stable sbpStore session held (Recorded session stamp) := by
  rintro before after known ⟨-, -, ⟨change, rfl⟩ | ⟨other, theirs, different, -, kept⟩⟩
  · exact ⟨known.stamped, known.unsent⟩
  · constructor
    · rcases kept.refunds with same | ⟨row, appended, -, -⟩
      · rw [same]
        exact known.stamped
      · rw [appended, stamps_append]
        exact List.mem_append_left _ known.stamped
    · intro event member refund
      rcases kept.dispatches with same | ⟨new, appended, own⟩
      · exact known.unsent event (same ▸ member) refund
      · rw [appended] at member
        rcases List.mem_append.mp member with old | last
        · exact known.unsent event old refund
        · rw [List.mem_singleton.mp last] at refund ⊢
          rw [own refund]
          intro same
          exact different (RowId.minted.inj (Option.some.inj same)).1

end Facts

def Harmless : SbpWrite -> Prop
  | .core _ => True
  | .statusChange _ => True
  | _ => False

theorem sameNotices_applyAll {writes : List SbpWrite}
    (harmless : ∀ write, write ∈ writes -> Harmless write) (db : SbpDb) :
    SameNotices db (sbpStore.applyAll db writes) := by
  induction writes generalizing db with
  | nil => exact ⟨rfl, rfl⟩
  | cons write writes extend =>
    have rest := extend (fun other member => harmless other (List.mem_cons_of_mem _ member))
      (sbpStore.apply db write)
    have first := harmless write List.mem_cons_self
    rw [Store.applyAll_cons]
    cases write with
    | core write => exact ⟨rest.1.trans rfl, rest.2.trans rfl⟩
    | statusChange change => exact ⟨rest.1.trans rfl, rest.2.trans rfl⟩
    | refund row => cases first
    | dispatch event => cases first

private theorem harmless_map (writes : List Write) :
    ∀ write, write ∈ writes.map SbpWrite.core -> Harmless write := by
  intro write member
  rcases List.mem_map.mp member with ⟨own, -, rfl⟩
  trivial

abbrev IssuesSafely (session : Nat) (program : SbpProgram) (held : List Lock)
    (pending : List SbpWrite) (db : SbpDb) : Prop :=
  issuing.Safe sbpStore (fun _ _ => True) session program held pending db

def Quiet (pending : List SbpWrite) : Prop :=
  ∀ write, write ∈ pending -> Harmless write

theorem Quiet.append {first second : List SbpWrite} (one : Quiet first) (two : Quiet second) :
    Quiet (first ++ second) := by
  intro write member
  rcases List.mem_append.mp member with old | new
  · exact one write old
  · exact two write new

theorem quiet_nil : Quiet [] :=
  fun _ member => absurd member List.not_mem_nil

theorem core_safe {session : Nat} {audit : SbpDb -> List SbpWrite}
    {next : Reply -> SbpProgram} (audited : ∀ db, Quiet (audit db))
    (finished : ∀ reply held pending db, Quiet pending ->
      IssuesSafely session (next reply) held pending db)
    (program : Program) (held : List Lock) (pending : List SbpWrite) (db : SbpDb)
    (quiet : Quiet pending) : IssuesSafely session
      (((program.within SbpDb.core SbpWrite.core).beforeCommit .plain audit).andThen next) held
      pending db := by
  induction program generalizing held pending db with
  | done reply => exact finished reply held pending db quiet
  | crashed => trivial
  | statement label locks onError writes onward failed went =>
    intro now _ good
    exact ⟨failed _ _ _ quiet_nil, fun _ => went _ _ _ _ _ (quiet.append (harmless_map _))⟩
  | commit onError onward failed went =>
    intro now _ good
    refine ⟨failed _ _ _ quiet_nil, fun _ => ?_⟩
    intro last _ goodLast
    have same := sameNotices_applyAll (quiet.append (audited (sbpStore.applyAll now pending))) last
    exact ⟨same.dispatched goodLast, same.issues session _, went _ _ _ quiet_nil,
      failed _ _ _ quiet_nil, failed _ _ _ quiet_nil⟩
  | rollback onward went =>
    intro now _ good
    exact went _ _ _ quiet_nil
  | call label writes onward went =>
    intro now _ good _ choice
    have same := sameNotices_applyAll (harmless_map (writes now.core choice)) now
    exact ⟨same.dispatched good, same.issues session _, went _ _ _ _ _ quiet⟩

/-! ## The two requests -/

section Requests

variable {session : Nat} {held : List Lock} {pending : List SbpWrite} {db : SbpDb}
  {claimId : RowId}

private theorem anything (session : Nat) (held : List Lock) :
    issuing.Stable sbpStore session held fun _ => True :=
  Contract.Stable.const session held True

private theorem mark_quiet (auditId : RowId) (own : SbpDb) :
    Quiet ((own.statusChange? auditId).toList.map fun change =>
      .statusChange (.replace { change with notifyDispatchedAt := some own.core.clock })) := by
  intro write member
  rcases List.mem_map.mp member with ⟨change, -, rfl⟩
  trivial

theorem markAuditNotifyDispatched_safe {auditId : RowId} {reply : Reply} (quiet : Quiet pending) :
    IssuesSafely session (SbpProgram.markAuditNotifyDispatched auditId (.done reply)) held
      pending db := by
  intro now _ good
  refine ⟨trivial, fun _ => ?_⟩
  intro last _ goodLast
  have same := sameNotices_applyAll
    (quiet.append (mark_quiet auditId (sbpStore.applyAll now pending))) last
  exact ⟨same.dispatched goodLast, same.issues session _, trivial, trivial, trivial⟩

theorem notice_safe {slotId learnerAccountId auditId : RowId} {reply : Reply}
    (quiet : Quiet pending) :
    IssuesSafely session (SbpProgram.dispatch (statusChanged slotId learnerAccountId)
      (SbpProgram.markAuditNotifyDispatched auditId (.done reply))) held pending db := by
  apply Contract.Safe.call _ (anything session held) trivial
  · intro now _ good _ _
    constructor
    · constructor
      · exact good.unique
      · intro event member
        rcases List.mem_append.mp member with old | new
        · exact good.each event old
        · rw [List.mem_singleton.mp new]
          exact Or.inr ⟨rfl, rfl⟩
      · apply List.pairwise_append.mpr
        refine ⟨good.once, List.pairwise_singleton _ _, ?_⟩
        intro first _ second single _ refund
        rw [List.mem_singleton.mp single] at refund
        cases refund
    · constructor
      · exact Or.inl rfl
      · refine Or.inr ⟨_, rfl, ?_⟩
        intro refund
        cases refund
  · intro now _ _ _ _
    exact markAuditNotifyDispatched_safe quiet

private theorem auditRow_quiet (session : Nat) (slotId teacherAccountId : RowId) (own : SbpDb) :
    Quiet ((own.core.slot? slotId).toList.map fun slot =>
      .statusChange (.insert (auditRow session slotId teacherAccountId slot))) := by
  intro write member
  rcases List.mem_map.mp member with ⟨slot, -, rfl⟩
  trivial

theorem changeStatus_issues {slotId teacherAccountId : RowId} {toStatus : LessonTargetStatus}
    {expectedUpdatedAt : Nat} {notifyLearner : Bool} :
    IssuesSafely session (SbpProgram.changeStatus session slotId teacherAccountId toStatus
      expectedUpdatedAt notifyLearner) [] [] db := by
  unfold SbpProgram.changeStatus SbpProgram.changeLessonStatus
  apply core_safe (auditRow_quiet session slotId teacherAccountId) _ _ _ _ _ quiet_nil
  intro reply held pending db quiet
  split
  · intro now _ good
    refine ⟨trivial, fun _ => ?_⟩
    dsimp only
    split
    · trivial
    · split
      · trivial
      · apply notice_safe
        rw [List.append_nil]
        exact quiet
  · trivial

private theorem refundIssued_safe {claim : PaymentClaim} {existing : Nat} {reply : Reply}
    (recorded : Recorded session ⟨.minted session 0, claim.id, refundIterSeq existing⟩ db) :
    IssuesSafely session (SbpProgram.dispatch
      (refundIssued claim (.minted session 0) existing) (.done reply)) [] [] db := by
  apply Contract.Safe.call _ (recorded_stable session [] _) recorded
  · intro now known good _ _
    constructor
    · constructor
      · exact good.unique
      · intro event member
        rcases List.mem_append.mp member with old | new
        · exact good.each event old
        · rw [List.mem_singleton.mp new]
          exact Or.inl ⟨rfl, _, known.stamped, rfl, rfl, rfl, rfl⟩
      · apply List.pairwise_append.mpr
        refine ⟨good.once, List.pairwise_singleton _ _, ?_⟩
        intro first member second single refund _
        rw [List.mem_singleton.mp single]
        exact known.unsent first member refund
    · constructor
      · exact Or.inl rfl
      · exact Or.inr ⟨_, rfl, fun _ => rfl⟩
  · intro now _ _ _ _
    trivial

theorem recorded_of_insert {row : PaymentRefund} (good : Dispatched db)
    (own : row.id = .minted session 0)
    (unrecorded : ∀ refund, refund ∈ db.refunds -> refund.id ≠ .minted session 0)
    (locked : WriteLocked held (.claim row.claimId)) :
    Dispatched { db with refunds := db.refunds ++ [row] } ∧
      Issues session held db { db with refunds := db.refunds ++ [row] } ∧
      Recorded session
        ⟨.minted session 0, row.claimId, refundIterSeq (givenBack db.refunds row.claimId).sum⟩
        { db with refunds := db.refunds ++ [row] } := by
  have fresh : get PaymentRefund.id db.refunds row.id = none := by
    apply get_eq_none_iff.mpr
    intro refund member
    rw [own]
    exact unrecorded refund member
  refine ⟨?_, ?_, ?_⟩
  · constructor
    · exact good.unique.insert fresh
    · intro event member
      rcases good.each event member with ⟨kind, stamp, listed, rest⟩ | status
      · left
        refine ⟨kind, stamp, ?_, rest⟩
        rw [stamps_append]
        exact List.mem_append_left _ listed
      · exact Or.inr status
    · exact good.once
  · exact ⟨Or.inr ⟨row, rfl, own, locked⟩, Or.inl rfl⟩
  · constructor
    · rw [stamps_append, own]
      exact List.mem_append_right _ (List.mem_singleton_self _)
    · intro event member refund same
      rcases good.each event member with ⟨-, stamp, listed, isRefund, -⟩ | ⟨status, -⟩
      · have known : stamp.refundId ∈ db.refunds.map PaymentRefund.id := by
          rw [← map_refundId_stamps [] db.refunds]
          exact List.mem_map_of_mem listed
        rcases List.mem_map.mp known with ⟨row, there, isRow⟩
        rw [isRefund, Option.some.injEq] at same
        exact unrecorded row there (isRow.trans same)
      · rw [refund] at status
        cases status

private theorem insertRefund_issues {claim : PaymentClaim} {row : PaymentRefund} {reply : Reply}
    {amounts : List Nat} (mine : WriteLocked held (.claim claim.id))
    (known : givenBack db.refunds claim.id = amounts) (about : row.claimId = claim.id)
    (own : row.id = .minted session 0) : IssuesSafely session
      (.guarded .plain [(LockTarget.claim claim.id).forKeyShare] SbpProgram.thrown
        (fun own => own.refunds.any fun refund => refund.id = .minted session 0)
        (fun _ => [.refund row]) fun _ =>
          .commit SbpProgram.thrown (SbpProgram.dispatch
            (refundIssued claim (.minted session 0) amounts.sum) (.done reply))) held [] db := by
  have same := givenBack_stable session mine amounts
  apply Contract.Safe.guarded _ same known
  · intro _ _
    trivial
  intro now known _ _ accepted
  have unrecorded : ∀ refund, refund ∈ now.refunds -> refund.id ≠ .minted session 0 := by
    intro refund member
    have free := List.any_eq_false.mp accepted refund member
    simpa using free
  have stable := (same.append [(LockTarget.claim claim.id).forKeyShare]).and
    (unrecorded_stable session _)
  have locked : WriteLocked ([(LockTarget.claim claim.id).forKeyShare] ++ held)
      (.claim row.claimId) := by
    rw [about]
    exact mine.append _
  apply Contract.Safe.commit _ stable ⟨known, unrecorded⟩
  · intro last holds good
    rcases recorded_of_insert good own holds.2 locked with ⟨dispatched, issues, -⟩
    exact ⟨dispatched, issues⟩
  · intro last holds good
    rcases recorded_of_insert good own holds.2 locked with ⟨-, -, recorded⟩
    rw [about, holds.1] at recorded
    exact refundIssued_safe recorded
  · intro _ _ _
    trivial
  · intro _ _ _
    trivial

theorem createRefund_issues {teacherAccountId : RowId} {amountKopecks : JsonNumber}
    {reason : RefundReason} {note : Option String} :
    IssuesSafely session (SbpProgram.createRefund session teacherAccountId claimId amountKopecks
      reason note) [] [] db := by
  unfold SbpProgram.createRefund
  split
  · trivial
  · next amount _ =>
    split
    · trivial
    · apply Contract.Safe.reading _ (anything session []) trivial
      · intro _ _
        trivial
      intro begun _ _ _
      apply Contract.Safe.acquiring _ (anything session []) trivial
      · intro _ _
        trivial
      intro now _ _ _
      cases found : now.core.claim? claimId with
      | none => exact fun _ _ _ => trivial
      | some claim =>
        have key : claim.id = claimId := key_of_get found
        have mine : WriteLocked ([(LockTarget.claim claimId).forUpdate] ++ [])
            (.claim claimId) := WriteLocked.head_update
        dsimp only
        split
        · exact fun _ _ _ => trivial
        · split
          · exact fun _ _ _ => trivial
          · apply Contract.Safe.reading _ (anything session _) trivial
            · intro _ _
              trivial
            intro now _ _ _
            split
            · exact fun _ _ _ => trivial
            · subst claimId
              let row : PaymentRefund :=
                ⟨.minted session 0, claim.id, amount, reason, note⟩
              have inserted := fun reply =>
                @insertRefund_issues session _ now claim row reply _ mine rfl rfl rfl
              exact inserted _

end Requests

/-- A transaction records one refund, or changes nothing that notices depend on. -/
def NoticeWrites (pending : List SbpWrite) : Prop :=
  Quiet pending ∨ ∃ row, pending = [.refund row]

def NoticeCalls (writes : List SbpWrite) : Prop :=
  Quiet writes ∨ ∃ event, writes = [.dispatch event]

abbrev KeepsNotices (pending : List SbpWrite) (program : SbpProgram) : Prop :=
  program.Commits NoticeWrites NoticeCalls pending

private theorem keepsNotices_core {audit : SbpDb -> List SbpWrite} {next : Reply -> SbpProgram}
    (audited : ∀ db, Quiet (audit db))
    (finished : ∀ reply pending, Quiet pending -> KeepsNotices pending (next reply))
    (program : Program) (pending : List SbpWrite) (quiet : Quiet pending) : KeepsNotices pending
      (((program.within SbpDb.core SbpWrite.core).beforeCommit .plain audit).andThen next) := by
  induction program generalizing pending with
  | done reply => exact finished reply pending quiet
  | crashed => trivial
  | statement label locks onError writes onward failed went =>
    exact ⟨failed _ quiet_nil, fun _ _ => went _ _ _ (quiet.append (harmless_map _))⟩
  | commit onError onward failed went =>
    refine ⟨failed _ quiet_nil, fun _ own => ⟨?_, failed _ quiet_nil, went _ quiet_nil⟩⟩
    exact Or.inl (quiet.append (audited own))
  | rollback onward went => exact went _ quiet_nil
  | call label writes onward went =>
    exact fun committed choice =>
      ⟨Or.inl (harmless_map (writes committed.core choice)), went _ _ _ quiet⟩

inductive NoticeRequest where
  | changeStatus (slotId teacherAccountId : RowId) (toStatus : LessonTargetStatus)
      (expectedUpdatedAt : Nat) (notifyLearner : Bool)
  | createRefund (teacherAccountId claimId : RowId) (amountKopecks : JsonNumber)
      (reason : RefundReason) (note : Option String)

def NoticeRequest.program (session : Nat) : NoticeRequest -> SbpProgram
  | .changeStatus slotId teacherAccountId toStatus expectedUpdatedAt notifyLearner =>
    .changeStatus session slotId teacherAccountId toStatus expectedUpdatedAt notifyLearner
  | .createRefund teacherAccountId claimId amountKopecks reason note =>
    .createRefund session teacherAccountId claimId amountKopecks reason note

theorem keepsNotices_program (session : Nat) (request : NoticeRequest) :
    KeepsNotices [] (request.program session) := by
  cases request with
  | changeStatus slotId teacherAccountId toStatus expectedUpdatedAt notifyLearner =>
    apply keepsNotices_core (auditRow_quiet session slotId teacherAccountId) _ _ _ quiet_nil
    intro reply pending quiet
    split
    · refine ⟨trivial, fun _ _ => ?_⟩
      rw [List.append_nil]
      dsimp only
      split
      · trivial
      · split
        · trivial
        · refine fun _ _ => ⟨Or.inr ⟨_, rfl⟩, trivial, fun _ own => ⟨?_, trivial, trivial⟩⟩
          exact Or.inl (quiet.append (mark_quiet _ own))
    · trivial
  | createRefund teacherAccountId claimId amountKopecks reason note =>
    simp only [NoticeRequest.program, SbpProgram.createRefund]
    split
    · trivial
    · split
      · trivial
      · refine ⟨trivial, fun _ _ => ⟨trivial, fun _ own => ?_⟩⟩
        dsimp only
        split
        · trivial
        · split
          · trivial
          · split
            · trivial
            · refine ⟨trivial, fun _ own => ?_⟩
              dsimp only
              split
              · trivial
              · refine ⟨trivial, fun _ own => ?_⟩
                dsimp only
                split
                · trivial
                · exact ⟨Or.inr ⟨_, rfl⟩, trivial, fun _ _ => ⟨Or.inr ⟨_, rfl⟩, trivial⟩⟩

def noticeOpening (db : SbpDb) (requests : Nat -> NoticeRequest) : SbpState :=
  State.start db fun session => (requests session).program session

theorem noticeRequest_issues (request : NoticeRequest) (session : Nat) (db : SbpDb) :
    IssuesSafely session (request.program session) [] [] db := by
  cases request with
  | changeStatus slotId teacherAccountId toStatus expectedUpdatedAt notifyLearner =>
    exact changeStatus_issues
  | createRefund teacherAccountId claimId amountKopecks reason note => exact createRefund_issues

/-- An event that records a refund finds that the last one of the claim has completed a
rouble, and an event that tells of a changed status finds that the slot has no such notice. -/
structure TellsApart (state : SbpState) (event : Event) : Prop where
  rouble : ∀ session, state.committing event = some session -> ∀ row,
    SbpWrite.refund row ∈ (state.sessions session).pending ->
      RoubleCompleted state.db.refunds row.claimId
  status : ∀ notice, SbpWrite.dispatch notice ∈ state.calling event ->
    notice.kind = .lessonStatusChangedByTeacher -> ∀ earlier,
      earlier ∈ state.db.dispatches -> earlier.kind = .lessonStatusChangedByTeacher ->
        earlier.ctx.slotId ≠ notice.ctx.slotId

/-- The iterations of refunds differ, and no slot has two notices. -/
def Apart (db : SbpDb) : Prop :=
  StampsApart db.refunds ∧ StatusOnce db

theorem SameNotices.apart {before after : SbpDb} (same : SameNotices before after)
    (apart : Apart before) : Apart after := by
  rw [Apart, StatusOnce, same.1, same.2]
  exact apart

variable {requests : Nat -> NoticeRequest} {db : SbpDb} {state last : SbpState} {event : Event}

theorem apart_step
    (reached : Reaches sbpStore (fun _ _ => True) (noticeOpening db requests) state)
    (apart : Apart state.db) (tells : TellsApart state event)
    (stepped : step sbpStore state event = some last) : Apart last.db := by
  have each : state.Each fun _ _ pending program => KeepsNotices pending program :=
    State.each_of_reaches (fun _ => Program.Commits.inherited _ _)
      (fun session => keepsNotices_program session (requests session)) reached
  cases moved_of_step each event stepped with
  | still _ same =>
    exact SameNotices.apart ⟨congrArg SbpDb.refunds same, congrArg SbpDb.dispatches same⟩ apart
  | drifted _ change same =>
    rw [same]
    exact @SameNotices.apart state.db _ ⟨rfl, rfl⟩ apart
  | closed _ session same =>
    rw [same]
    exact @SameNotices.apart state.db _ ⟨rfl, rfl⟩ apart
  | called _ shaped same =>
    rw [same]
    rcases shaped with quiet | ⟨notice, calls⟩
    · exact (sameNotices_applyAll quiet state.db).apart apart
    · rw [calls]
      refine ⟨apart.1, List.pairwise_append.mpr ⟨apart.2, List.pairwise_singleton _ _, ?_⟩⟩
      intro earlier member other single first second
      rw [List.mem_singleton.mp single] at second ⊢
      have told := tells.status notice (by rw [calls]; exact List.mem_singleton_self _)
      exact told second earlier member first
  | committed session committing shaped same =>
    rw [same]
    rcases shaped with quiet | ⟨row, pending⟩
    · exact (sameNotices_applyAll quiet state.db).apart apart
    · rw [pending]
      have completed := tells.rouble session committing row
        (by rw [pending]; exact List.mem_singleton_self _)
      exact ⟨stampsApart_append row apart.1 completed, apart.2⟩

/-- As long as no refund comes on top of one that completed no rouble, and no slot has a
second notice of a changed status, no two events are dispatched under one key. -/
theorem notification_keys_distinct (db : SbpDb) (requests : Nat -> NoticeRequest)
    (dispatched : Dispatched db) (apart : Apart db) (state : SbpState)
    (reached : ReachesWhen sbpStore TellsApart (noticeOpening db requests) state) :
    KeysDistinct state.db := by
  have kept : Apart state.db := by
    have keeps : ∀ middle event after,
        Reaches sbpStore (fun _ _ => True) (noticeOpening db requests) middle ->
          Apart middle.db -> TellsApart middle event ->
            step sbpStore middle event = some after -> Apart after.db :=
      fun middle event after before apart tells stepped => apart_step before apart tells stepped
    exact reached.keeps keeps apart
  have sound : Contract.Sound issuing sbpStore (fun _ _ => True) (noticeOpening db requests) :=
    Contract.Sound.start dispatched fun session =>
      noticeRequest_issues (requests session) session db
  have good := (sound.reaches issuing_steady reached.reaches).1.good
  exact keysDistinct good kept.1 kept.2

private theorem confirmedDb_dispatched : Dispatched confirmedDb where
  unique := List.nodup_nil
  each _ member := absurd member List.not_mem_nil
  once := List.Pairwise.nil

private theorem confirmedDb_apart : Apart confirmedDb :=
  ⟨List.Pairwise.nil, List.Pairwise.nil⟩

def halfRoubles : Nat -> NoticeRequest :=
  fun _ => .createRefund (.seeded 1) confirmedClaim.id (.integer 50) .goodwill none

def emailKeys (db : SbpDb) : List Notifications.DedupKey :=
  db.dispatches.map fun event => Notifications.dedupKey event.kind event.ctx .email

private theorem nodup_emailKeys {db : SbpDb} (distinct : KeysDistinct db) :
    (emailKeys db).Nodup := by
  rw [emailKeys, List.Nodup, List.pairwise_map]
  exact distinct.imp fun differ => differ .email

/-- The second refund is dispatched under the key of the first. -/
theorem notification_key_reused :
    ¬ ∀ (db : SbpDb) (requests : Nat -> NoticeRequest) (state : SbpState),
      Dispatched db -> Apart db ->
        Reaches sbpStore (fun _ _ => True) (noticeOpening db requests) state ->
          KeysDistinct state.db := by
  intro distinct
  rcases exists_of_play sbpStore (noticeOpening confirmedDb halfRoubles)
    (Event.steps 0 6 (.unsent "") ++ Event.steps 1 6 (.unsent ""))
    (fun db => ¬ (emailKeys db).Nodup) (by decide +kernel) with ⟨state, reached, twice⟩
  exact twice (nodup_emailKeys
    (distinct confirmedDb halfRoubles state confirmedDb_dispatched confirmedDb_apart reached))

/-- The condition, as it is computed. -/
def tellsApart (state : SbpState) (event : Event) : Bool :=
  ((state.committing event).all fun session =>
    (state.sessions session).pending.all fun write =>
      match write with
      | .refund row =>
        (givenBack state.db.refunds row.claimId).isEmpty ||
          (givenBack state.db.refunds row.claimId).dropLast.sum / 100 <
            (givenBack state.db.refunds row.claimId).sum / 100
      | _ => true) &&
  (state.calling event).all fun write =>
    match write with
    | .dispatch notice =>
      notice.kind ≠ .lessonStatusChangedByTeacher || state.db.dispatches.all fun earlier =>
        earlier.kind ≠ .lessonStatusChangedByTeacher || earlier.ctx.slotId ≠ notice.ctx.slotId
    | _ => true

private theorem tellsApart_sound (state : SbpState) (event : Event)
    (met : tellsApart state event = true) : TellsApart state event := by
  rcases Bool.and_eq_true_iff.mp met with ⟨refunds, statuses⟩
  constructor
  · intro session committing row pending
    rw [committing, Option.all_some, List.all_eq_true] at refunds
    have completed := refunds (.refund row) pending
    simpa [RoubleCompleted] using completed
  · intro notice calls kind earlier member kindEarlier
    have differ := List.all_eq_true.mp statuses (.dispatch notice) calls
    simp only [kind, ne_eq, not_true_eq_false, decide_false, Bool.false_or,
      List.all_eq_true] at differ
    have apart := differ earlier member
    simpa [kindEarlier] using apart

def roundRefunds : Nat -> NoticeRequest
  | 0 => .createRefund (.seeded 1) confirmedClaim.id (.integer 6000) .overpaid none
  | _ => .createRefund (.seeded 1) confirmedClaim.id (.integer 3000) .goodwill none

theorem notification_keys_distinct_roubles :
    ∃ state, ReachesWhen sbpStore TellsApart (noticeOpening confirmedDb roundRefunds) state ∧
      state.db.dispatches.map (fun event => event.ctx.iterSeq) = [1, 61] ∧
      KeysDistinct state.db := by
  rcases exists_of_playWhen sbpStore tellsApart_sound
    (Event.steps 0 6 (.unsent "") ++ Event.steps 1 6 (.unsent ""))
    (fun state => state.db.dispatches.map (fun event => event.ctx.iterSeq) = [1, 61])
    (.refl (noticeOpening confirmedDb roundRefunds)) (by decide +kernel) with
    ⟨state, reached, iterations⟩
  exact ⟨state, reached, of_decide_eq_true iterations,
    notification_keys_distinct confirmedDb roundRefunds confirmedDb_dispatched
      confirmedDb_apart state reached⟩

end LevelChannel.SbpRefunds
