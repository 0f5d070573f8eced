import LevelChannel.Notifications.Dispatch
import LevelChannel.Payments.Journal
import LevelChannel.ReadCommitted.Lifting

namespace LevelChannel.SbpRefunds

open ReadCommitted Tables

/-!
# Refunds of direct payments

The functions of `lib/payments/sbp-refunds.ts`.  The money of a direct payment goes back
from the teacher's own bank; the platform only keeps a record of it, which is bounded by
the amount of the claim.  The bound is a sum over rows.  It is checked while the claim is
locked, and a claim that is confirmed stays as it is.

After a refund is committed its learner is told about it.  What is dispatched here is what
`dispatchLessonEvent` is called with.
-/

inductive RefundReason where
  | slotCancelled
  | overpaid
  | goodwill
  | duplicate
  | other
  deriving DecidableEq, Repr

/-- A row of `payment_refunds`. -/
structure PaymentRefund where
  id : RowId
  claimId : RowId
  amountKopecks : Nat
  reason : RefundReason
  note : Option String
  deriving DecidableEq, Repr

/-- A row of `audit_lesson_status_change`, without the statuses, which nothing reads. -/
structure StatusChange where
  id : RowId
  slotId : RowId
  actorAccountId : RowId
  learnerAccountId : Option RowId
  ts : Nat
  notifyDispatchedAt : Option Nat
  deriving DecidableEq, Repr

/-- A call of `dispatchLessonEvent`. -/
structure Dispatch where
  kind : Notifications.LessonEventKind
  ctx : Notifications.LessonEventCtx
  deriving DecidableEq, Repr

/-- The database with the refunds and the audit of status changes, and the events that
were dispatched, in their order. -/
structure SbpDb where
  core : Db
  refunds : List PaymentRefund
  statusChanges : List StatusChange
  dispatches : List Dispatch

inductive SbpWrite where
  | core (write : Write)
  | refund (row : PaymentRefund)
  | statusChange (change : Change StatusChange)
  | dispatch (event : Dispatch)
  deriving DecidableEq

def SbpDb.apply (db : SbpDb) : SbpWrite -> SbpDb
  | .core write => { db with core := db.core.apply write }
  | .refund row => { db with refunds := db.refunds ++ [row] }
  | .statusChange change =>
    { db with statusChanges := change.apply StatusChange.id db.statusChanges }
  | .dispatch event => { db with dispatches := db.dispatches ++ [event] }

def sbpStore : ReadCommitted.Store SbpDb Lock SbpWrite Drift where
  apply := SbpDb.apply
  drift := fun change db => { db with core := db.core.drift change }
  close := fun session db => { db with core := store.close session db.core }
  conflict := Lock.conflict
  conflict_comm := Lock.conflict_comm

abbrev SbpProgram := ReadCommitted.Program SbpDb Lock SbpWrite Label GatewayAnswer Reply

abbrev SbpState := ReadCommitted.State SbpDb Lock SbpWrite Label GatewayAnswer Reply

namespace SbpDb

/-- `coalesce(sum(amount_kopecks), 0)` over the refunds of a claim. -/
def refundedOn (db : SbpDb) (claimId : RowId) : Nat :=
  total (fun refund => refund.claimId = claimId) PaymentRefund.amountKopecks db.refunds

end SbpDb

/-- The iteration of a refund: `existing > 0 ? Math.floor(existing / 100) + 1 : 1`. -/
def refundIterSeq (existing : Nat) : Nat :=
  if 0 < existing then existing / 100 + 1 else 1

def refundIssued (claim : PaymentClaim) (refundId : RowId) (existing : Nat) : Dispatch where
  kind := .paymentRefundIssued
  ctx :=
    { slotId := none
      claimId := some claim.id
      refundId := some refundId
      recipientAccountId := claim.learnerAccountId
      recipientRole := .learner
      iterSeq := refundIterSeq existing }

namespace SbpProgram

def thrown : SbpProgram :=
  .done (.thrown driverError)

/-- `return { ok: false, reason }`, with nothing to undo. -/
def notOk (reason : String) : SbpProgram :=
  .done (.returned reason [])

/-- `rollback`, then `return { ok: false, reason }`. -/
def rollbackNotOk (reason : String) : SbpProgram :=
  .rollback (notOk reason)

/-- `dispatchLessonEvent`, whose failures are caught. -/
def dispatch (event : Dispatch) (next : SbpProgram) : SbpProgram :=
  .call .plain (fun _ _ => [.dispatch event]) fun _ _ => next

def createRefund (session : Nat) (teacherAccountId claimId : RowId) (amountKopecks : JsonNumber)
    (reason : RefundReason) (note : Option String) : SbpProgram :=
  match positiveInteger (some amountKopecks) with
  | none => notOk "invalid_amount"
  | some amount =>
    if maxAmountKopecks ≤ amount then notOk "amount_too_large"
    else
      .reading .plain thrown fun _ _ =>
        .acquiring .plain [(LockTarget.claim claimId).forUpdate] thrown fun _ own =>
          match own.core.claim? claimId with
          | none => rollbackNotOk "claim_not_found"
          | some claim =>
            if claim.teacherAccountId ≠ teacherAccountId then rollbackNotOk "not_owner"
            else if claim.status ≠ .confirmed then rollbackNotOk "claim_not_confirmed"
            else
              .reading .plain thrown fun _ own =>
                let existing := own.refundedOn claimId
                if claim.amountKopecks < existing + amount then
                  rollbackNotOk "refund_exceeds_claim"
                else
                  let refundId := RowId.minted session 0
                  .guarded .plain [(LockTarget.claim claimId).forKeyShare] thrown
                    (fun own => own.refunds.any fun refund => refund.id = refundId)
                    (fun _ => [.refund
                      { id := refundId
                        claimId := claimId
                        amountKopecks := amount
                        reason := reason
                        note := note }])
                    fun _ =>
                      .commit thrown
                        (dispatch (refundIssued claim refundId existing)
                          (.done (.returned "ok" [refundId])))

end SbpProgram

/-- Every refund is of a confirmed claim, and the refunds of a claim do not exceed it. -/
def Bounded (db : SbpDb) : Prop :=
  ∀ refund, refund ∈ db.refunds -> ∃ claim,
    db.core.claim? refund.claimId = some claim ∧ claim.status = .confirmed ∧
      db.refundedOn refund.claimId ≤ claim.amountKopecks

/-- The journal without the spelling of slots, which refunds do not depend on. -/
abbrev JournalInOrder (db : Db) : Prop :=
  Journal.InOrder False db

/-- What a session may change under its locks: the refunds of a claim are the business of
whoever has locked it. -/
structure Guarded (held : List Lock) (before after : SbpDb) : Prop where
  journal : Journal.Guarded False UuidText.canonical held before.core after.core
  refunded : ∀ claimId, after.refundedOn claimId ≠ before.refundedOn claimId ->
    WriteLocked held (.claim claimId)

def contract : Contract SbpDb Lock where
  Good db := JournalInOrder db.core ∧ Bounded db
  Guarantee _ := Guarded

theorem Bounded.settled {before after : SbpDb} (bounded : Bounded before)
    (refunds : after.refunds = before.refunds)
    (settled : Journal.Settled before.core after.core) : Bounded after := by
  intro refund member
  rw [refunds] at member
  rcases bounded refund member with ⟨claim, found, confirmed, enough⟩
  rcases settled refund.claimId claim found with ⟨now, read, kept⟩
  have same : now = claim := by
    apply kept
    rw [confirmed]
    decide
  rw [SbpDb.refundedOn, refunds]
  exact ⟨claim, same ▸ read, confirmed, enough⟩

theorem guarded_core {held : List Lock} {before after : SbpDb}
    (refunds : after.refunds = before.refunds)
    (journal : Journal.Guarded False UuidText.canonical held before.core after.core) :
    Guarded held before after where
  journal := journal
  refunded claimId changed := by
    rw [SbpDb.refundedOn, SbpDb.refundedOn, refunds] at changed
    exact absurd rfl changed

theorem steady : Contract.Steady contract sbpStore where
  drift change db good := by
    have same := Journal.sameJournal_drift change db.core
    exact ⟨same.inOrder good.1, good.2.settled rfl (@Journal.SameJournal.guarded False
      UuidText.canonical _ _ same []).settled⟩
  close session held db good := by
    have same : Journal.SameJournal db.core (store.close session db.core) := ⟨rfl, rfl⟩
    have kept := @Journal.SameJournal.guarded False UuidText.canonical _ _ same held
    exact ⟨⟨same.inOrder good.1, good.2.settled rfl kept.settled⟩, guarded_core rfl kept⟩

theorem part : sbpStore.Part store SbpDb.core SbpWrite.core where
  apply _ _ := rfl

private theorem applyAll_core (db : SbpDb) (writes : List Write) :
    sbpStore.applyAll db (writes.map SbpWrite.core) =
      { db with core := store.applyAll db.core writes } := by
  induction writes generalizing db with
  | nil => rfl
  | cons write writes extend =>
    rw [List.map_cons, Store.applyAll_cons, extend]
    rfl

theorem lifts : contract.Lifts (Journal.contract False UuidText.canonical) sbpStore store
    SbpDb.core SbpWrite.core where
  good _ good := good.1
  relies session held before after := by
    rintro ⟨good, goodAfter, ⟨change, rfl⟩ | ⟨other, theirs, different, apart, kept⟩⟩
    · exact .single ⟨good.1, goodAfter.1, Or.inl ⟨change, rfl⟩⟩
    · exact .single ⟨good.1, goodAfter.1, Or.inr ⟨other, theirs, different, apart, kept.journal⟩⟩
  keeps session held db writes good goodAfter kept := by
    rw [applyAll_core]
    exact ⟨⟨goodAfter, good.2.settled rfl kept.settled⟩, guarded_core rfl kept⟩

/-! ## A refund that is recorded -/

section Recording

variable {session : Nat} {held : List Lock} {claimId : RowId} {db : SbpDb}

abbrev Safe (session : Nat) (program : SbpProgram) (held : List Lock) (pending : List SbpWrite)
    (db : SbpDb) : Prop :=
  contract.Safe sbpStore (fun _ _ => True) session program held pending db

private theorem always_stable (session : Nat) (held : List Lock) :
    contract.Stable sbpStore session held fun _ => True :=
  Contract.Stable.const session held True

theorem claim_stable (session : Nat) (locked : WriteLocked held (.claim claimId))
    (value : Option PaymentClaim) :
    contract.Stable sbpStore session held fun now => now.core.claim? claimId = value := by
  rintro before after read disturbed
  have below := lifts.relies session held before after disturbed
  exact (Journal.claim_stable session locked value).drifts read below

theorem refunded_stable (session : Nat) (locked : WriteLocked held (.claim claimId)) (value : Nat) :
    contract.Stable sbpStore session held fun now => now.refundedOn claimId = value := by
  rintro before after read ⟨-, -, ⟨change, rfl⟩ | ⟨other, theirs, -, apart, kept⟩⟩
  · exact read
  · by_contra changed
    exact locked.excludes apart (kept.refunded claimId fun same => changed (same.trans read))

private theorem refundedOn_append (db : SbpDb) (row : PaymentRefund) (claimId : RowId) :
    SbpDb.refundedOn { db with refunds := db.refunds ++ [row] } claimId =
      db.refundedOn claimId + if row.claimId = claimId then row.amountKopecks else 0 := by
  rw [SbpDb.refundedOn, total_append]
  by_cases same : row.claimId = claimId <;> simp [SbpDb.refundedOn, total, same]

theorem recorded {row : PaymentRefund} {claim : PaymentClaim} (good : contract.Good db)
    (locked : WriteLocked held (.claim row.claimId))
    (found : db.core.claim? row.claimId = some claim) (confirmed : claim.status = .confirmed)
    (enough : db.refundedOn row.claimId + row.amountKopecks ≤ claim.amountKopecks) :
    contract.Good { db with refunds := db.refunds ++ [row] } ∧
      Guarded held db { db with refunds := db.refunds ++ [row] } := by
  constructor
  · refine ⟨good.1, ?_⟩
    intro refund member
    rw [refundedOn_append]
    by_cases same : row.claimId = refund.claimId
    · rw [← same, if_pos rfl]
      exact ⟨claim, found, confirmed, enough⟩
    · rw [if_neg same, Nat.add_zero]
      rcases List.mem_append.mp member with old | new
      · exact good.2 refund old
      · exact absurd (congrArg PaymentRefund.claimId (List.mem_singleton.mp new)).symm same
  · constructor
    · exact Journal.SameJournal.guarded ⟨rfl, rfl⟩ held
    · intro claimId changed
      rw [refundedOn_append] at changed
      by_cases same : row.claimId = claimId
      · exact same ▸ locked
      · rw [if_neg same, Nat.add_zero] at changed
        exact absurd rfl changed

theorem dispatch_safe (event : Dispatch) (reply : Reply) :
    Safe session (SbpProgram.dispatch event (.done reply)) [] [] db := by
  apply Contract.Safe.call _ (always_stable session []) trivial
  · intro now _ good _ _
    exact ⟨good, guarded_core rfl (Journal.SameJournal.guarded ⟨rfl, rfl⟩ _)⟩
  · intro now _ _ _ _
    trivial

private theorem insertRefund_safe {row : PaymentRefund} {claim : PaymentClaim}
    {rejects : SbpDb -> Bool} {event : Dispatch} {reply : Reply} {existing : Nat}
    (mine : WriteLocked held (.claim row.claimId)) (found : db.core.claim? row.claimId = some claim)
    (sum : db.refundedOn row.claimId = existing) (confirmed : claim.status = .confirmed)
    (enough : existing + row.amountKopecks ≤ claim.amountKopecks) : Safe session
      (.guarded .plain [(LockTarget.claim row.claimId).forKeyShare] SbpProgram.thrown rejects
        (fun _ => [.refund row]) fun _ =>
          .commit SbpProgram.thrown (SbpProgram.dispatch event (.done reply))) held [] db := by
  have stable := (claim_stable session mine (some claim)).and
    (refunded_stable session mine existing)
  apply Contract.Safe.guarded _ stable ⟨found, sum⟩
  · intro _ _
    trivial
  intro now known _ _ _
  apply Contract.Safe.last _ (stable.append _) known
  · intro last holds good
    rcases holds with ⟨found, sum⟩
    rw [← sum] at enough
    exact recorded good (mine.append _) found confirmed enough
  · intro last _
    exact dispatch_safe _ _
  · intro last _
    trivial

theorem createRefund_safe {teacherAccountId : RowId} {amountKopecks : JsonNumber}
    {reason : RefundReason} {note : Option String} :
    Safe session (SbpProgram.createRefund session teacherAccountId claimId amountKopecks reason
      note) [] [] db := by
  unfold SbpProgram.createRefund
  split
  · trivial
  · next amount _ =>
    split
    · trivial
    · apply Contract.Safe.reading _ (always_stable session []) trivial
      · intro _ _
        trivial
      intro begun _ _ _
      apply Contract.Safe.acquiring _ (always_stable session []) trivial
      · intro _ _
        trivial
      intro now _ _ _
      cases found : now.core.claim? claimId with
      | none => exact fun _ _ _ => trivial
      | some claim =>
        have mine : WriteLocked ([(LockTarget.claim claimId).forUpdate] ++ [])
            (.claim claimId) := WriteLocked.head_update
        dsimp only
        split
        · exact fun _ _ _ => trivial
        · split
          · exact fun _ _ _ => trivial
          · next confirmed =>
            rw [ne_eq, Decidable.not_not] at confirmed
            apply Contract.Safe.reading _ (claim_stable session mine (some claim)) found
            · intro _ _
              trivial
            intro now found _ _
            split
            · exact fun _ _ _ => trivial
            · next enough =>
              have left : now.refundedOn claimId + amount ≤ claim.amountKopecks :=
                Nat.not_lt.mp enough
              let row : PaymentRefund := ⟨RowId.minted session 0, claimId, amount, reason, note⟩
              have inserted := fun rejects event reply =>
                @insertRefund_safe session _ now row claim rejects event reply _ mine found rfl
                  confirmed left
              exact inserted _ _ _

end Recording

inductive Request where
  | journal (request : Journal.Request)
  | createRefund (teacherAccountId claimId : RowId) (amountKopecks : JsonNumber)
      (reason : RefundReason) (note : Option String)

def Request.program (session : Nat) : Request -> SbpProgram
  | .journal request => (request.program session).within SbpDb.core SbpWrite.core
  | .createRefund teacherAccountId claimId amountKopecks reason note =>
    .createRefund session teacherAccountId claimId amountKopecks reason note

def opening (db : SbpDb) (requests : Nat -> Request) : SbpState :=
  State.start db fun session => (requests session).program session

theorem request_safe (request : Request) (session : Nat) (db : SbpDb) :
    Safe session (request.program session) [] [] db := by
  cases request with
  | journal request =>
    have safe : Journal.Safe False UuidText.canonical session (request.program session) [] []
        db.core := Journal.request_safe request fun none => none.elim
    exact Contract.Safe.within part lifts (fun _ _ allowed => allowed) safe
  | createRefund teacherAccountId claimId amountKopecks reason note => exact createRefund_safe

private theorem settled_of_moves {first last : SbpDb}
    (moved : Relation.ReflTransGen (contract.Moves sbpStore) first last) :
    Journal.Settled first.core last.core := by
  induction moved with
  | refl => exact Journal.settled_refl _
  | tail _ move settled =>
    apply settled.trans
    rcases move.2.2 with rfl | ⟨change, rfl⟩ | ⟨session, held, kept⟩
    · exact Journal.settled_refl _
    · exact (@Journal.SameJournal.guarded False UuidText.canonical _ _
        (Journal.sameJournal_drift change _) []).settled
    · exact kept.journal.settled

/-- In every state that is reached, the refunds of a claim are at most its amount, and a
claim that has a refund is confirmed and stays as it is. -/
theorem refunds_bounded (db : SbpDb) (requests : Nat -> Request)
    (start : JournalInOrder db.core) (bounded : Bounded db) (first last : SbpState)
    (reachedFirst : Reaches sbpStore (fun _ _ => True) (opening db requests) first)
    (reached : Reaches sbpStore (fun _ _ => True) first last) :
    (∀ claim, claim ∈ last.db.core.claims -> last.db.refundedOn claim.id ≤ claim.amountKopecks) ∧
    ∀ refund, refund ∈ first.db.refunds -> ∃ claim,
      first.db.core.claim? refund.claimId = some claim ∧ claim.status = .confirmed ∧
        last.db.core.claim? refund.claimId = some claim := by
  have sound : Contract.Sound contract sbpStore (fun _ _ => True) (opening db requests) :=
    Contract.Sound.start ⟨start, bounded⟩ fun session => request_safe (requests session) session db
  have soundFirst := (sound.reaches steady reachedFirst).1
  rcases soundFirst.reaches steady reached with ⟨soundLast, moved⟩
  constructor
  · intro claim member
    by_cases some : ∃ refund, refund ∈ last.db.refunds ∧ refund.claimId = claim.id
    · rcases some with ⟨refund, listed, same⟩
      rcases soundLast.good.2 refund listed with ⟨found, read, -, enough⟩
      have stored : last.db.core.claim? claim.id = Option.some claim :=
        get_of_mem soundLast.good.1.unique member
      rw [same, stored, Option.some.injEq] at read
      rw [← same, read]
      exact enough
    · have nothing : last.db.refundedOn claim.id = 0 := by
        apply total_eq_zero
        intro refund listed
        apply decide_eq_false
        intro same
        exact some ⟨refund, listed, same⟩
      rw [nothing]
      exact Nat.zero_le _
  · intro refund member
    rcases soundFirst.good.2 refund member with ⟨claim, found, confirmed, -⟩
    rcases settled_of_moves moved refund.claimId claim found with ⟨now, read, kept⟩
    have same : now = claim := by
      apply kept
      rw [confirmed]
      decide
    exact ⟨claim, found, confirmed, same ▸ read⟩

def confirmedClaim : PaymentClaim where
  id := .seeded 50
  learnerAccountId := .seeded 2
  teacherAccountId := .seeded 1
  amountKopecks := 10000
  paymentMethodId := none
  paymentChannel := .other
  initiatedBy := .teacher
  status := .confirmed
  amountMismatchKopecks := 10000
  noteLearner := none
  noteTeacher := none
  paidAt := none
  resolvedAt := some 0

def confirmedDb : SbpDb where
  core := { Db.empty with claims := [confirmedClaim] }
  refunds := []
  statusChanges := []
  dispatches := []

private theorem confirmedDb_inOrder : JournalInOrder confirmedDb.core where
  unique := List.nodup_singleton _
  placed _ member := absurd member List.not_mem_nil
  balanced claim member := by
    rw [List.mem_singleton.mp member]
    decide
  exclusive none := none.elim

def refundedTwice : Nat -> Request
  | 0 => .createRefund (.seeded 1) confirmedClaim.id (.integer 6000) .overpaid none
  | 1 => .createRefund (.seeded 1) confirmedClaim.id (.integer 6000) .goodwill none
  | _ => .journal (.cancelClaimByLearner (.seeded 2) confirmedClaim.id)

/-- The second refund, which waited for the claim, finds too little left. -/
theorem refunds_bounded_waiting :
    ∃ state, Reaches sbpStore (fun _ _ => True) (opening confirmedDb refundedTwice) state ∧
      state.db.refunds.map PaymentRefund.amountKopecks = [6000] ∧
      (∀ claim, claim ∈ state.db.core.claims ->
        state.db.refundedOn claim.id ≤ claim.amountKopecks) ∧
      ∀ refund, refund ∈ state.db.refunds -> ∃ claim,
        state.db.core.claim? refund.claimId = some claim ∧ claim.status = .confirmed ∧
          state.db.core.claim? refund.claimId = some claim := by
  let steps (session count : Nat) : List Event :=
    Event.steps session count (GatewayAnswer.unsent "")
  rcases exists_of_play sbpStore (opening confirmedDb refundedTwice)
    (steps 1 1 ++ steps 0 6 ++ steps 1 3 ++ steps 2 3)
    (fun db => db.refunds.map PaymentRefund.amountKopecks = [6000]) (by decide +kernel) with
    ⟨state, reached, once⟩
  exact ⟨state, reached, once, refunds_bounded confirmedDb refundedTwice confirmedDb_inOrder
    (fun _ member => absurd member List.not_mem_nil) state state reached (.refl state)⟩

end LevelChannel.SbpRefunds
