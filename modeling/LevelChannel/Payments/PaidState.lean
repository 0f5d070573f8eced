import LevelChannel.Payments.Claims
import LevelChannel.Refunds.Routes

namespace LevelChannel

open Tables

/-!
# Is a lesson paid?

Six queries answer this, each over its own joins.  The two of `lib/billing/paid-state.ts`
and the debt query subtract reversals and do not know claims; the gate of the claim
journal and its two lists of unpaid slots know claims and do not subtract reversals.
Only the first one looks at the price.  The theorem of this module says which of them
mean the same, and what the others mean.
-/

/-- What `slotIsPaidByAllocations` returns. -/
structure SlotPaidStatus where
  slotId : RowId
  expectedAmountKopecks : Option Nat
  paidAmountKopecks : Nat
  isPaid : Bool
  deriving DecidableEq, Repr

inductive SlotPaymentSource where
  | paidPackage
  | paidDirect
  | unpaid
  deriving DecidableEq, Repr

namespace Db

/-! ## The queries -/

def paidOrder (db : Db) (allocation : PaymentAllocation) : Bool :=
  (get PaymentOrder.invoiceId db.orders allocation.key.paymentOrderId).any fun order =>
    order.status = .paid

def liveAllocation (db : Db) (allocation : PaymentAllocation) : Bool :=
  db.paidOrder allocation && db.refundedKopecks allocation.key < allocation.amountKopecks

/-- `a.kind = 'lesson_slot' and a.target_id = s.id::text` -/
def allocatedTo (slotId : RowId) (allocation : PaymentAllocation) : Bool :=
  allocation.key.kind = .lessonSlot && allocation.key.targetId = .canonical slotId

def paidAmountKopecks (db : Db) (slotId : RowId) : Nat :=
  total (fun allocation => allocatedTo slotId allocation && db.liveAllocation allocation)
    PaymentAllocation.amountKopecks db.allocations

/-- `coalesce(s.snapshot_amount_kopecks, t.amount_kopecks)` -/
def expectedAmountKopecks (db : Db) (slot : LessonSlot) : Option Nat :=
  slot.snapshotAmountKopecks.or
    ((slot.tariffId.bind db.catalog.tariff).map PricingTariff.amountKopecks)

def slotIsPaidByAllocations (db : Db) (slotId : RowId) : Option SlotPaidStatus :=
  (db.slot? slotId).map fun slot =>
    let expected := db.expectedAmountKopecks slot
    let paid := db.paidAmountKopecks slotId
    { slotId := slotId
      expectedAmountKopecks := expected
      paidAmountKopecks := paid
      isPaid := expected.any fun expected => expected ≤ paid }

def hasDirect (db : Db) (slotId : RowId) : Bool :=
  db.allocations.any fun allocation =>
    allocatedTo slotId allocation && db.liveAllocation allocation

def slotPaymentSource (db : Db) (slot : LessonSlot) : Option SlotPaymentSource :=
  if db.consumedByPackage slot.id then some .paidPackage
  else if db.hasDirect slot.id then some .paidDirect
  else if slot.status = .booked then some .unpaid
  else none

def getSlotPaymentSources (db : Db) (slotIds : List RowId) :
    List (RowId × Option SlotPaymentSource) :=
  (db.slots.filter fun slot => slotIds.contains slot.id).map fun slot =>
    (slot.id, db.slotPaymentSource slot)

/-- The two `not exists` of the debt query. -/
def postpaidUnpaid (db : Db) (slotId : RowId) : Bool :=
  !db.consumedByPackage slotId && !db.hasDirect slotId

/-- `listAccountPostpaidDebt`, the slots of its rows. -/
def listAccountPostpaidDebt (db : Db) (accountId : RowId) : List LessonSlot :=
  (db.slots.filter fun slot => (db.completionOf? slot.id).isSome &&
      slot.learnerAccountId = some accountId && db.postpaidUnpaid slot.id).mergeSort
    fun first second => second.startAt ≤ first.startAt

/-- The three `not exists` of the lists of unpaid slots. -/
def journalUnpaid (db : Db) (slotId : RowId) : Bool :=
  !db.claimedBySbp slotId && !db.consumedByPackage slotId && !db.allocatedByOrder slotId

/-- `listUnpaidSlotsForPair`, the slots of its rows. -/
def listUnpaidSlotsForPair (db : Db) (teacherAccountId learnerAccountId : RowId) :
    List LessonSlot :=
  ((db.slots.filter fun slot => slot.teacherAccountId = teacherAccountId &&
      slot.learnerAccountId = some learnerAccountId &&
      (slot.status = .booked || slot.status = .completed || slot.status = .noShowLearner ||
        slot.status = .cancelled) &&
      db.journalUnpaid slot.id).mergeSort fun first second => second.startAt ≤ first.startAt).take
    50

/-- The policy of `listLearnersWithUnpaidSlots`: which slots a teacher charges for. -/
def charged (db : Db) (slot : LessonSlot) : Bool :=
  0 < slot.snapshotAmountKopecks.getD 0 &&
    match slot.status with
    | .completed => true
    | .booked => slot.startAt ≤ db.clock
    | .noShowLearner => db.catalog.chargeOnNoShow slot.teacherAccountId
    | .cancelled => db.catalog.chargeOnLateCancel slot.teacherAccountId &&
        slot.cancelledAt.any fun cancelledAt => slot.startAt < cancelledAt + 24 * 60 * 60 * 1000
    | _ => false

/-- The slots `listLearnersWithUnpaidSlots` counts and sums, by learner. -/
def unpaidSlotsOfTeacher (db : Db) (teacherAccountId : RowId) : List LessonSlot :=
  db.slots.filter fun slot => slot.teacherAccountId = teacherAccountId && db.charged slot &&
    db.journalUnpaid slot.id

/-- `listLearnersWithUnpaidSlots`: learner, number of unpaid slots and what they come to,
the largest sum first. -/
def listLearnersWithUnpaidSlots (db : Db) (teacherAccountId : RowId) : List (RowId × Nat × Nat) :=
  let slots := db.unpaidSlotsOfTeacher teacherAccountId
  let learners := (slots.filterMap LessonSlot.learnerAccountId).dedup
  let ofLearner (learner : RowId) : List LessonSlot :=
    slots.filter fun slot => slot.learnerAccountId = some learner
  let rows := learners.map fun learner =>
    (learner, (ofLearner learner).length,
      ((ofLearner learner).map fun slot => slot.snapshotAmountKopecks.getD 0).sum)
  (rows.mergeSort fun first second => second.2.2 ≤ first.2.2).take 30

end Db

inductive PaidReader where
  | byAllocations
  | bySource
  | postpaidDebt
  | claimGate
  | unpaidSlots
  | unpaidLearners
  deriving DecidableEq, Repr

/-- The reader takes the slot to be paid: the status says so, the source is a payment,
the gate refuses, or the list leaves the slot out for that reason. -/
def PaidReader.paid (db : Db) (slot : LessonSlot) : PaidReader -> Bool
  | .byAllocations => (db.slotIsPaidByAllocations slot.id).any SlotPaidStatus.isPaid
  | .bySource => db.slotPaymentSource slot = some .paidPackage ||
      db.slotPaymentSource slot = some .paidDirect
  | .postpaidDebt => !db.postpaidUnpaid slot.id
  | .claimGate => db.slotAlreadyPaid slot.id
  | .unpaidSlots => !db.journalUnpaid slot.id
  | .unpaidLearners => !db.journalUnpaid slot.id

theorem mem_listAccountPostpaidDebt {db : Db} {slot : LessonSlot} {accountId : RowId} :
    slot ∈ db.listAccountPostpaidDebt accountId <->
      slot ∈ db.slots ∧ (db.completionOf? slot.id).isSome ∧ slot.learnerAccountId = some accountId ∧
        PaidReader.postpaidDebt.paid db slot = false := by
  simp [Db.listAccountPostpaidDebt, PaidReader.paid, and_assoc]

theorem mem_unpaidSlotsOfTeacher {db : Db} {slot : LessonSlot} {teacherAccountId : RowId} :
    slot ∈ db.unpaidSlotsOfTeacher teacherAccountId <->
      slot ∈ db.slots ∧ slot.teacherAccountId = teacherAccountId ∧ db.charged slot = true ∧
        PaidReader.unpaidLearners.paid db slot = false := by
  simp [Db.unpaidSlotsOfTeacher, PaidReader.paid, and_assoc]

theorem paid_of_mem_listUnpaidSlotsForPair {db : Db} {slot : LessonSlot}
    {teacherAccountId learnerAccountId : RowId}
    (listed : slot ∈ db.listUnpaidSlotsForPair teacherAccountId learnerAccountId) :
    PaidReader.unpaidSlots.paid db slot = false := by
  have member := List.mem_of_mem_take listed
  simp only [List.mem_mergeSort, List.mem_filter, Bool.and_eq_true] at member
  simp [PaidReader.paid, member.2.2]

/-! ## Where they agree -/

def CoveredByAllocations (db : Db) (slot : LessonSlot) : Prop :=
  ∃ price, db.expectedAmountKopecks slot = some price ∧ price ≤ db.paidAmountKopecks slot.id

def RefundedInFull (db : Db) (slotId : RowId) : Prop :=
  ∃ allocation, allocation ∈ db.allocations ∧ Db.allocatedTo slotId allocation = true ∧
    db.paidOrder allocation = true ∧
    allocation.amountKopecks ≤ db.refundedKopecks allocation.key

theorem allocatedByOrder_of_hasDirect {db : Db} {slotId : RowId}
    (direct : db.hasDirect slotId = true) : db.allocatedByOrder slotId = true := by
  simp only [Db.hasDirect, List.any_eq_true, Bool.and_eq_true] at direct
  rcases direct with ⟨allocation, member, target, live⟩
  simp only [Db.allocatedTo, Bool.and_eq_true] at target
  simp only [Db.liveAllocation, Bool.and_eq_true] at live
  simp only [Db.allocatedByOrder, List.any_eq_true, Bool.and_eq_true]
  exact ⟨allocation, member, target, live.1⟩

theorem hasDirect_of_allocatedByOrder {db : Db} {slotId : RowId}
    (kept : ¬ RefundedInFull db slotId) (allocated : db.allocatedByOrder slotId = true) :
    db.hasDirect slotId = true := by
  simp only [Db.allocatedByOrder, List.any_eq_true, Bool.and_eq_true] at allocated
  rcases allocated with ⟨allocation, member, target, paid⟩
  have targeted : Db.allocatedTo slotId allocation = true := by
    simp only [Db.allocatedTo, Bool.and_eq_true]
    exact target
  have unrefunded : db.refundedKopecks allocation.key < allocation.amountKopecks := by
    by_contra refunded
    exact kept ⟨allocation, member, targeted, paid, Nat.le_of_not_lt refunded⟩
  simp only [Db.hasDirect, List.any_eq_true, Bool.and_eq_true, Db.liveAllocation,
    decide_eq_true_eq]
  exact ⟨allocation, member, targeted, paid, unrefunded⟩

theorem paidAmountKopecks_eq_zero {db : Db} {slotId : RowId}
    (none_live : db.hasDirect slotId = false) : db.paidAmountKopecks slotId = 0 := by
  apply total_eq_zero
  intro allocation member
  simp only [Db.hasDirect, List.any_eq_false] at none_live
  simpa using none_live allocation member

theorem paid_byAllocations {db : Db} {slot : LessonSlot} (found : db.slot? slot.id = some slot) :
    PaidReader.byAllocations.paid db slot = true <-> CoveredByAllocations db slot := by
  simp only [PaidReader.paid, Db.slotIsPaidByAllocations, found, Option.map_some,
    Option.any_some, CoveredByAllocations]
  cases db.expectedAmountKopecks slot with
  | none => simp
  | some price => simp

theorem paid_bySource {db : Db} {slot : LessonSlot} : PaidReader.bySource.paid db slot = true <->
      db.consumedByPackage slot.id = true ∨ db.hasDirect slot.id = true := by
  simp only [PaidReader.paid, Db.slotPaymentSource]
  split
  next consumed => simp [consumed]
  next unconsumed =>
    split
    next direct => simp [direct]
    next indirect => split <;> simp [unconsumed, indirect]

theorem paid_postpaidDebt {db : Db} {slot : LessonSlot} :
    PaidReader.postpaidDebt.paid db slot = PaidReader.bySource.paid db slot := by
  rw [Bool.eq_iff_iff, paid_bySource]
  cases consumed : db.consumedByPackage slot.id <;>
    simp [PaidReader.paid, Db.postpaidUnpaid, consumed]

theorem paid_unpaidSlots {db : Db} {slot : LessonSlot} :
    PaidReader.unpaidSlots.paid db slot = PaidReader.claimGate.paid db slot := by
  simp only [PaidReader.paid, Db.journalUnpaid, Db.slotAlreadyPaid]
  cases db.claimedBySbp slot.id <;> cases db.consumedByPackage slot.id <;> simp

theorem paid_claimGate_of_paid_bySource {db : Db} {slot : LessonSlot}
    (paid : PaidReader.bySource.paid db slot = true) :
    PaidReader.claimGate.paid db slot = true := by
  simp only [PaidReader.paid, Db.slotAlreadyPaid, Bool.or_eq_true]
  rcases paid_bySource.mp paid with consumed | direct
  · exact Or.inl (Or.inr consumed)
  · exact Or.inr (allocatedByOrder_of_hasDirect direct)

theorem paid_claimGate {db : Db} {slot : LessonSlot} (kept : ¬ RefundedInFull db slot.id) :
    PaidReader.claimGate.paid db slot = true <->
      PaidReader.bySource.paid db slot = true ∨ db.claimedBySbp slot.id = true := by
  constructor
  · intro paid
    simp only [PaidReader.paid, Db.slotAlreadyPaid, Bool.or_eq_true] at paid
    rcases paid with (claimed | consumed) | allocated
    · exact Or.inr claimed
    · exact Or.inl (paid_bySource.mpr (Or.inl consumed))
    · exact Or.inl (paid_bySource.mpr (Or.inr (hasDirect_of_allocatedByOrder kept allocated)))
  · rintro (paid | claimed)
    · exact paid_claimGate_of_paid_bySource paid
    · simp [PaidReader.paid, Db.slotAlreadyPaid, claimed]

theorem hasDirect_of_covered {db : Db} {slot : LessonSlot}
    (covered : CoveredByAllocations db slot) (priced : db.expectedAmountKopecks slot ≠ some 0) :
    db.hasDirect slot.id = true := by
  rcases covered with ⟨price, expected, paid⟩
  by_contra none_live
  rw [paidAmountKopecks_eq_zero (by simpa using none_live)] at paid
  exact priced (expected.trans (congrArg some (Nat.le_zero.mp paid)))

theorem hasDirect_eq_false {db : Db} {slotId : RowId}
    (refunded : ∀ allocation, allocation ∈ db.allocations ->
      Db.allocatedTo slotId allocation = true ->
      allocation.amountKopecks ≤ db.refundedKopecks allocation.key) :
    db.hasDirect slotId = false := by
  simp only [Db.hasDirect, List.any_eq_false, Db.liveAllocation, Bool.and_eq_true,
    decide_eq_true_eq]
  rintro allocation member ⟨target, -, live⟩
  exact absurd live (Nat.not_lt.mpr (refunded allocation member target))

/-- The readers in three groups.  The payment source and the debt query mean the same on
every slot: a package unit in use, or a live allocation.  The price check means that
live allocations come to a known price; what it takes to be paid every reader does, a
price of zero aside.  The gate and the lists of the journal mean the same on every slot,
and, refunds in full aside, what the debt query means or an active claim. -/
theorem paid_readers (db : Db) (slot : LessonSlot) (found : db.slot? slot.id = some slot) :
    (PaidReader.bySource.paid db slot = true <->
        db.consumedByPackage slot.id = true ∨ db.hasDirect slot.id = true) ∧
      PaidReader.postpaidDebt.paid db slot = PaidReader.bySource.paid db slot ∧
      (PaidReader.byAllocations.paid db slot = true <-> CoveredByAllocations db slot) ∧
      (db.expectedAmountKopecks slot ≠ some 0 -> PaidReader.byAllocations.paid db slot = true ->
        ∀ reader : PaidReader, reader.paid db slot = true) ∧
      PaidReader.unpaidSlots.paid db slot = PaidReader.claimGate.paid db slot ∧
      PaidReader.unpaidLearners.paid db slot = PaidReader.claimGate.paid db slot ∧
      (¬ RefundedInFull db slot.id -> (PaidReader.claimGate.paid db slot = true <->
        PaidReader.bySource.paid db slot = true ∨ db.claimedBySbp slot.id = true)) ∧
      ((∀ allocation, allocation ∈ db.allocations -> Db.allocatedTo slot.id allocation = true ->
          allocation.amountKopecks ≤ db.refundedKopecks allocation.key) ->
        db.expectedAmountKopecks slot ≠ some 0 -> db.consumedByPackage slot.id = false ->
        PaidReader.byAllocations.paid db slot = false ∧ PaidReader.bySource.paid db slot = false ∧
          PaidReader.postpaidDebt.paid db slot = false) := by
  refine ⟨paid_bySource, paid_postpaidDebt, paid_byAllocations found, ?_, paid_unpaidSlots,
    paid_unpaidSlots, paid_claimGate, ?_⟩
  · intro priced paid reader
    have direct := hasDirect_of_covered ((paid_byAllocations found).mp paid) priced
    have source : PaidReader.bySource.paid db slot = true := paid_bySource.mpr (Or.inr direct)
    have gate := paid_claimGate_of_paid_bySource source
    cases reader with
    | byAllocations => exact paid
    | bySource => exact source
    | postpaidDebt => exact paid_postpaidDebt.trans source
    | claimGate => exact gate
    | unpaidSlots => exact paid_unpaidSlots.trans gate
    | unpaidLearners => exact paid_unpaidSlots.trans gate
  · intro refunded priced unconsumed
    have indirect := hasDirect_eq_false refunded
    have source : PaidReader.bySource.paid db slot = false := by
      rw [Bool.eq_false_iff]
      intro paid
      rcases paid_bySource.mp paid with consumed | direct
      · rw [unconsumed] at consumed
        cases consumed
      · rw [indirect] at direct
        cases direct
    refine ⟨?_, source, paid_postpaidDebt.trans source⟩
    rw [Bool.eq_false_iff]
    intro paid
    have direct := hasDirect_of_covered ((paid_byAllocations found).mp paid) priced
    rw [indirect] at direct
    cases direct

def packageLesson : LessonSlot where
  id := .seeded 0
  teacherAccountId := .seeded 1
  startAt := 0
  durationMinutes := 60
  status := .completed
  isPersonalEvent := false
  learnerAccountId := some (.seeded 2)
  tariffId := some (.seeded 3)
  snapshotAmountKopecks := some 100000
  cancelledAt := none
  cancelledByAccountId := none
  cancellationReason := none
  markedAt := none
  updatedAt := 0

def packageLessonDb : Db :=
  { Db.empty with
    slots := [packageLesson]
    consumptions := [⟨.seeded 0, .seeded 4, .learner, none, none, none⟩] }

theorem paid_readers_package_lesson : packageLessonDb.slot? packageLesson.id = some packageLesson ∧
      (PaidReader.bySource.paid packageLessonDb packageLesson = true <->
        packageLessonDb.consumedByPackage packageLesson.id = true ∨
          packageLessonDb.hasDirect packageLesson.id = true) :=
  ⟨by decide, (paid_readers packageLessonDb packageLesson (by decide)).1⟩

/-- The readers of `slotIsPaidByAllocations` and of `getSlotPaymentSources` do not answer
the same question. -/
theorem paid_readers_differ : ¬ ∀ (db : Db) (slot : LessonSlot), db.slot? slot.id = some slot ->
      ∀ first second : PaidReader, first.paid db slot = second.paid db slot := by
  intro agree
  have same := agree packageLessonDb packageLesson (by decide) .byAllocations .bySource
  revert same
  decide

end LevelChannel
