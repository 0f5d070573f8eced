import LevelChannel.Scheduling.BookingDays

namespace LevelChannel

open Clocks

/-!
# Which slots are on offer

A slot is offered to a learner if the learner may see its tariff.  The list of future slots leaves
out tariffs that are inactive or archived; the listings for booking and the booking itself only
ask whether a private tariff has been granted to the learner.
-/

namespace SlotVisibility

open BookingDays (OpenSlots upcoming listed dayBegin)
open MoscowStarts (threeHoursAhead)

/-! ## The gates -/

/-- A row of `learner_tariff_access`. -/
structure TariffAccess where
  tariffId : RowId
  learnerAccountId : RowId
  revokedAt : Option Nat
  deriving DecidableEq, Repr

structure Offers where
  tariff : RowId -> Option PricingTariff
  access : List TariffAccess

def Offers.granted (offers : Offers) (tariffId learnerAccountId : RowId) : Bool :=
  offers.access.any fun row =>
    decide (row.tariffId = tariffId) && decide (row.learnerAccountId = learnerAccountId) &&
      row.revokedAt.isNone

def Offers.visible (offers : Offers) (viewerAccountId : Option RowId) (tariffId : RowId)
    (tariff : PricingTariff) : Bool :=
  !tariff.isPrivate || viewerAccountId.any fun viewer => offers.granted tariffId viewer

/-- The gate of `listOpenFutureSlots`. -/
def futureSlotGate (offers : Offers) (viewerAccountId : Option RowId) (slot : LessonSlot) : Bool :=
  slot.tariffId.all fun tariffId => (offers.tariff tariffId).all fun tariff =>
    tariff.isActive && !tariff.isDeleted && offers.visible viewerAccountId tariffId tariff

/-- The gate of `listOpenBookingDays` and `listOpenBookingTimes`. -/
def bookingListGate (offers : Offers) (viewerAccountId : Option RowId) (slot : LessonSlot) : Bool :=
  slot.tariffId.all fun tariffId => (offers.tariff tariffId).any fun tariff =>
    offers.visible viewerAccountId tariffId tariff

/-- The gate of `bookSlot`. -/
def privateNoAccess (offers : Offers) (slot : LessonSlot) (learnerAccountId : RowId) : Bool :=
  slot.tariffId.any fun tariffId => (offers.tariff tariffId).any fun tariff =>
    tariff.isPrivate && !offers.granted tariffId learnerAccountId

theorem privateNoAccess_eq (offers : Offers) (own : Db) (slot : LessonSlot)
    (learnerAccountId : RowId) (tariffs : own.catalog.tariff = offers.tariff)
    (grants : own.catalog.tariffAccess = offers.granted) :
    Program.privateNoAccess own slot learnerAccountId =
      privateNoAccess offers slot learnerAccountId := by
  rw [Program.privateNoAccess, privateNoAccess, tariffs, grants]
  cases slot.tariffId with
  | none => rfl
  | some tariffId => cases found : offers.tariff tariffId <;> simp [found]

structure FutureSlotsQuery where
  teacherAccountId : Option RowId
  fromIso : Option Int
  toIso : Option Int
  limit : Option Int
  viewerAccountId : Option RowId

def futureListed (offers : Offers) (now : Int) (params : FutureSlotsQuery) (slot : LessonSlot) :
    Bool :=
  decide (slot.status = .open) && decide (params.fromIso.getD now ≤ slot.startAt) &&
    params.toIso.all (fun toIso => decide ((slot.startAt : Int) ≤ toIso)) &&
    params.teacherAccountId.all (fun teacher => decide (slot.teacherAccountId = teacher)) &&
    futureSlotGate offers params.viewerAccountId slot

def listOpenFutureSlots (slots : List LessonSlot) (offers : Offers) (now : Int)
    (params : FutureSlotsQuery) : List LessonSlot :=
  ((slots.filter (futureListed offers now params)).insertionSort
    fun first second => first.startAt ≤ second.startAt).take
      (min (max (params.limit.getD 200) 1) 500).toNat

def offeredTo (session : Zone) (now : Int) (slots : List LessonSlot) (offers : Offers)
    (viewerAccountId : Option RowId) : OpenSlots where
  session := session
  now := now
  slots := slots
  visible := bookingListGate offers viewerAccountId

def OfferedForBooking (shown : OpenSlots) (tz : Zone) (slot : LessonSlot) : Prop :=
  ∃ first last, listed shown slot.teacherAccountId tz first last slot = true

/-- `bookSlot` answers that there is no such slot, because the learner may not see its tariff. -/
def refusedByTariff (offers : Offers) (billingActive : Bool) (slot : LessonSlot)
    (learnerAccountId : RowId) : Bool :=
  billingActive && privateNoAccess offers slot learnerAccountId

/-- Both listings offer the slot or neither does, and what is offered is not refused. -/
structure OneRule (session tz : Zone) (now : Int) (slots : List LessonSlot) (offers : Offers)
    (learnerAccountId : RowId) (slot : LessonSlot) : Prop where
  same : futureListed offers now
      ⟨some slot.teacherAccountId, none, none, none, some learnerAccountId⟩ slot = true <->
    OfferedForBooking (offeredTo session now slots offers (some learnerAccountId)) tz slot
  accepted : futureListed offers now
      ⟨some slot.teacherAccountId, none, none, none, some learnerAccountId⟩ slot = true ∨
    OfferedForBooking (offeredTo session now slots offers (some learnerAccountId)) tz slot ->
      ∀ billingActive, refusedByTariff offers billingActive slot learnerAccountId = false

/-- The slot has no tariff, or one that is active and not archived, or a private one without
access. -/
def Undisputed (offers : Offers) (learnerAccountId : RowId) (slot : LessonSlot) : Prop :=
  ∀ tariffId, slot.tariffId = some tariffId -> ∃ tariff,
    offers.tariff tariffId = some tariff ∧
      ((tariff.isActive = true ∧ tariff.isDeleted = false) ∨
        (tariff.isPrivate = true ∧ offers.granted tariffId learnerAccountId = false))

section Rule

variable {session tz : Zone} {now : Int} {slots : List LessonSlot} {offers : Offers}
  {learnerAccountId : RowId} {slot : LessonSlot}

theorem offeredForBooking_iff {shown : OpenSlots}
    (future : upcoming shown slot.teacherAccountId slot = true) :
    OfferedForBooking shown tz slot <-> shown.visible slot = true := by
  constructor
  · rintro ⟨first, last, holds⟩
    simp only [listed, Bool.and_eq_true] at holds
    exact holds.2
  · intro seen
    have begins := BookingDays.dayBegin_within shown.session tz
      ((slot.startAt : Int) / 86400000 - 2)
    have ends := BookingDays.dayBegin_within shown.session tz
      ((slot.startAt : Int) / 86400000 + 3)
    refine ⟨(slot.startAt : Int) / 86400000 - 2, (slot.startAt : Int) / 86400000 + 2, ?_⟩
    simp only [listed, future, seen, Bool.and_eq_true, decide_eq_true_eq, true_and, and_true]
    rw [Int.add_assoc]
    constructor
    · omega
    · change _ < dayBegin shown.session tz ((slot.startAt : Int) / 86400000 + 3)
      omega

theorem futureListed_iff (open_ : slot.status = .open) (future : now < slot.startAt) :
    futureListed offers now
        ⟨some slot.teacherAccountId, none, none, none, some learnerAccountId⟩ slot = true <->
      futureSlotGate offers (some learnerAccountId) slot = true := by
  have late : now ≤ slot.startAt := future.le
  simp [futureListed, open_, late]

theorem not_refused_of_offered
    (offered : futureSlotGate offers (some learnerAccountId) slot = true ∨
      bookingListGate offers (some learnerAccountId) slot = true) :
    privateNoAccess offers slot learnerAccountId = false := by
  rw [futureSlotGate, bookingListGate] at offered
  rw [privateNoAccess]
  cases named : slot.tariffId with
  | none => rfl
  | some tariffId =>
    rw [named, Option.all_some, Option.all_some] at offered
    rw [Option.any_some]
    cases found : offers.tariff tariffId with
    | none => rfl
    | some tariff =>
      rw [found, Option.all_some, Option.any_some] at offered
      rw [Option.any_some]
      have seen : offers.visible (some learnerAccountId) tariffId tariff = true := by
        rcases offered with first | second
        · simp only [Bool.and_eq_true] at first
          exact first.2
        · exact second
      rw [Offers.visible, Option.any_some] at seen
      cases personal : tariff.isPrivate with
      | false => rfl
      | true =>
        rw [personal, Bool.not_true, Bool.false_or] at seen
        rw [seen]
        rfl

theorem gates_agree_iff : (futureSlotGate offers (some learnerAccountId) slot = true <->
        bookingListGate offers (some learnerAccountId) slot = true) <->
      Undisputed offers learnerAccountId slot := by
  rw [futureSlotGate, bookingListGate, Undisputed]
  cases named : slot.tariffId with
  | none => simp
  | some tariffId =>
    simp only [Option.all_some, Option.some.injEq, forall_eq']
    cases found : offers.tariff tariffId with
    | none => simp
    | some tariff =>
      simp only [Option.all_some, Option.any_some, Option.some.injEq, exists_eq_left',
        Offers.visible, Bool.and_eq_true, Bool.or_eq_true, Bool.not_eq_true']
      cases tariff.isActive <;> cases tariff.isDeleted <;> cases tariff.isPrivate <;>
        cases offers.granted tariffId learnerAccountId <;> simp

end Rule

/-- One rule holds for an open slot to come if and only if its tariff is undisputed. -/
theorem oneRule_iff (session tz : Zone) (now : Int) (slots : List LessonSlot) (offers : Offers)
    (learnerAccountId : RowId) {slot : LessonSlot} (open_ : slot.status = .open)
    (future : now < slot.startAt) : OneRule session tz now slots offers learnerAccountId slot <->
      Undisputed offers learnerAccountId slot := by
  have toCome : upcoming (offeredTo session now slots offers (some learnerAccountId))
      slot.teacherAccountId slot = true := by
    simp [upcoming, offeredTo, open_, future]
  have booking : OfferedForBooking (offeredTo session now slots offers (some learnerAccountId)) tz
      slot <-> bookingListGate offers (some learnerAccountId) slot = true :=
    offeredForBooking_iff toCome
  have listing := @futureListed_iff now offers learnerAccountId slot open_ future
  constructor
  · intro rule
    exact gates_agree_iff.mp (listing.symm.trans (rule.same.trans booking))
  · intro undisputed
    refine ⟨listing.trans ((gates_agree_iff.mpr undisputed).trans booking.symm), ?_⟩
    intro offered billingActive
    rw [refusedByTariff, not_refused_of_offered (offered.imp listing.mp booking.mp), Bool.and_false]

def standingOffers : Offers where
  tariff _ := some
    { teacherId := some (.seeded 2)
      durationMinutes := 60
      amountKopecks := 250000
      isActive := true
      isDeleted := false
      isPrivate := false }
  access := []

def archivedOffers : Offers where
  tariff _ := some
    { teacherId := some (.seeded 2)
      durationMinutes := 60
      amountKopecks := 250000
      isActive := false
      isDeleted := true
      isPrivate := false }
  access := []

def archivedSlot : LessonSlot :=
  { BookingDays.nightSlot with tariffId := some (.seeded 3) }

/-- One rule holds for the slot while its tariff is in the catalog, and not after that. -/
theorem oneRule_iff_archived :
    OneRule threeHoursAhead threeHoursAhead 0 [archivedSlot] standingOffers (.seeded 4)
        archivedSlot ∧
      ¬OneRule threeHoursAhead threeHoursAhead 0 [archivedSlot] archivedOffers (.seeded 4)
        archivedSlot := by
  have law (offers : Offers) :=
    oneRule_iff threeHoursAhead threeHoursAhead 0 [archivedSlot] offers (.seeded 4)
      (rfl : archivedSlot.status = .open) (by decide)
  refine ⟨(law standingOffers).mpr ?_, fun rule => ?_⟩
  · exact gates_agree_iff.mp (by decide)
  · exact absurd (gates_agree_iff.mpr ((law archivedOffers).mp rule)) (by decide)

/-- A slot at an archived price is offered for booking, and not among the future slots. -/
theorem not_oneRule_archived :
    ¬∀ (session tz : Zone) (now : Int) (slots : List LessonSlot) (offers : Offers)
      (learnerAccountId : RowId) (slot : LessonSlot), slot ∈ slots -> slot.status = .open ->
        now < slot.startAt -> OneRule session tz now slots offers learnerAccountId slot := by
  intro all
  have rule := all threeHoursAhead threeHoursAhead 0 [archivedSlot] archivedOffers (.seeded 4)
    archivedSlot List.mem_cons_self rfl (by decide)
  have offered : OfferedForBooking (offeredTo threeHoursAhead 0 [archivedSlot] archivedOffers
      (some (.seeded 4))) threeHoursAhead archivedSlot :=
    (offeredForBooking_iff (by decide)).mpr (by decide)
  have hidden := rule.same.mpr offered
  revert hidden
  decide

end SlotVisibility

end LevelChannel
