import LevelChannel.Scheduling.MoscowStarts
import Mathlib.Data.List.Sort
import Mathlib.Data.List.Dedup
import Mathlib.Data.List.Perm.Subperm

namespace LevelChannel

open Clocks

/-!
# Days and times to book

A learner first chooses a day and then a time.  Both listings take the open slots between two
midnights, which the database finds by casting dates; the listing of days names the local date of
each slot.  A date is cast by the clocks of the database session, so the midnights are those of the
learner's zone only where the two zones agree.

A date stands for the text that names it.
-/

namespace BookingDays

open MoscowStarts (threeHoursAhead)

/-! ## The two listings -/

/-- What is on offer to a viewer at an instant, as a session of the database sees it. -/
structure OpenSlots where
  session : Zone
  now : Int
  slots : List LessonSlot
  visible : LessonSlot -> Bool

def MAX_DAYS_RANGE_DAYS : Int := 92

def DEFAULT_TIMES_PER_DAY : Int := 96

def isValidYmd (value : Date) : Bool :=
  decide (100 ≤ value.year ∧ value.year ≤ 9999) && decide (1 ≤ value.month ∧ value.month ≤ 12) &&
    decide (1 ≤ value.day ∧ value.day ≤ 31) && decide (dateOf (dayNumber value) = value)

inductive BookingRangeCode where
  | invalidFrom
  | invalidTo
  | invalidTz
  | rangeInverted
  | rangeTooWide
  deriving DecidableEq, Repr

structure BookingRangeError where
  code : BookingRangeCode
  message : String
  deriving DecidableEq, Repr

/-- The texts of real dates are ordered as the dates are. -/
def validateBookingRange (fromYmd toYmd : Option Date) (tz : Option Zone) :
    Option BookingRangeError :=
  match fromYmd.filter isValidYmd with
  | none => some ⟨.invalidFrom, "`from` must be a real YYYY-MM-DD date"⟩
  | some first =>
    match toYmd.filter isValidYmd with
    | none => some ⟨.invalidTo, "`to` must be a real YYYY-MM-DD date"⟩
    | some last =>
      if tz.isNone then some ⟨.invalidTz, "`tz` must be a valid IANA timezone"⟩
      else if dayNumber last < dayNumber first then
        some ⟨.rangeInverted, "`from` must be ≤ `to`"⟩
      else if MAX_DAYS_RANGE_DAYS < dayNumber last - dayNumber first then
        some ⟨.rangeTooWide, "range must not exceed 92 days"⟩
      else none

/-- A date at time zone `tz`, as the session compares it with an instant: its midnight by the
clocks of the session, shown by those of `tz`, and cast by those of the session again. -/
def dayBegin (session tz : Zone) (day : Int) : Int :=
  session.cast (tz.wall (session.cast (86400000 * day)))

def upcoming (shown : OpenSlots) (teacherAccountId : RowId) (slot : LessonSlot) : Bool :=
  decide (slot.status = .open) && decide (slot.teacherAccountId = teacherAccountId) &&
    decide (shown.now < slot.startAt)

def listed (shown : OpenSlots) (teacherAccountId : RowId) (tz : Zone) (first last : Int)
    (slot : LessonSlot) : Bool :=
  upcoming shown teacherAccountId slot &&
    decide (dayBegin shown.session tz first ≤ slot.startAt ∧
      slot.startAt < dayBegin shown.session tz (last + 1)) && shown.visible slot

def listOpenBookingDays (shown : OpenSlots) (teacherAccountId : RowId) (fromYmd toYmd : Date)
    (tz : Zone) : List Date :=
  if !isValidYmd fromYmd || !isValidYmd toYmd then []
  else
    let rows := shown.slots.filter
      (listed shown teacherAccountId tz (dayNumber fromYmd) (dayNumber toYmd))
    ((rows.map fun slot => tz.dayAt slot.startAt).dedup.insertionSort (· ≤ ·)).map dateOf

def timesLimit (limit : Option Int) : Nat :=
  (min (max (limit.getD DEFAULT_TIMES_PER_DAY) 1) 200).toNat

def listOpenBookingTimes (shown : OpenSlots) (teacherAccountId : RowId) (ymd : Date) (tz : Zone)
    (limit : Option Int) : List LessonSlot :=
  if !isValidYmd ymd then []
  else
    let rows := shown.slots.filter
      (listed shown teacherAccountId tz (dayNumber ymd) (dayNumber ymd))
    (rows.insertionSort fun first second => first.startAt ≤ second.startAt).take (timesLimit limit)

section Listed

variable {shown : OpenSlots} {teacherAccountId : RowId} {tz : Zone} {ymd : Date}
  {limit : Option Int}

theorem timesLimit_pos (limit : Option Int) : 0 < timesLimit limit := by
  rw [timesLimit]
  omega

theorem listOpenBookingTimes_ne_nil_iff :
    listOpenBookingTimes shown teacherAccountId ymd tz limit ≠ [] <->
      isValidYmd ymd = true ∧ ∃ slot, slot ∈ shown.slots ∧
        listed shown teacherAccountId tz (dayNumber ymd) (dayNumber ymd) slot = true := by
  rw [listOpenBookingTimes]
  cases isValidYmd ymd with
  | false => simp
  | true =>
    have some_ := timesLimit_pos limit
    simp only [Bool.not_true, Bool.false_eq_true, if_false, true_and, ne_eq, List.take_eq_nil_iff]
    rw [← List.length_eq_zero_iff, List.length_insertionSort, List.length_eq_zero_iff,
      List.filter_eq_nil_iff]
    constructor
    · intro missing
      by_contra none_
      exact missing (Or.inr fun slot member holds => none_ ⟨slot, member, holds⟩)
    · rintro ⟨slot, member, holds⟩ (empty | none_)
      · omega
      · exact none_ slot member holds

theorem listOpenBookingTimes_perm (valid : isValidYmd ymd = true)
    (below : (listOpenBookingTimes shown teacherAccountId ymd tz limit).length < timesLimit limit) :
    (listOpenBookingTimes shown teacherAccountId ymd tz limit).Perm (shown.slots.filter
      (listed shown teacherAccountId tz (dayNumber ymd) (dayNumber ymd))) := by
  rw [listOpenBookingTimes, valid] at below ⊢
  simp only [Bool.not_true, Bool.false_eq_true, if_false] at below ⊢
  rw [List.length_take] at below
  rw [List.take_of_length_le (by omega)]
  exact List.perm_insertionSort _ _

theorem mem_listOpenBookingDays {fromYmd toYmd : Date} :
    ymd ∈ listOpenBookingDays shown teacherAccountId fromYmd toYmd tz <->
      (isValidYmd fromYmd = true ∧ isValidYmd toYmd = true) ∧ ∃ slot, (slot ∈ shown.slots ∧
          listed shown teacherAccountId tz (dayNumber fromYmd) (dayNumber toYmd) slot = true) ∧
          dateOf (tz.dayAt slot.startAt) = ymd := by
  rw [listOpenBookingDays]
  cases isValidYmd fromYmd with
  | false => simp
  | true =>
    cases isValidYmd toYmd with
    | false => simp
    | true =>
      simp [List.mem_map, List.mem_insertionSort, List.mem_dedup, List.mem_filter]

end Listed

/-! ## Midnights -/

/-- The days on which a range that is valid can begin, and the day after the last of them. -/
def WithinReach (day : Int) : Prop :=
  dayNumber ⟨100, 1, 1⟩ ≤ day ∧ day ≤ dayNumber ⟨10000, 1, 1⟩

theorem isValidYmd_dateOf {day : Int} (late : dayNumber ⟨100, 1, 1⟩ ≤ day)
    (early : day < dayNumber ⟨10000, 1, 1⟩) : isValidYmd (dateOf day) = true := by
  have within := dateOf_within day
  have first := le_year_iff.mpr late
  have last : ¬10000 ≤ (dateOf day).year := fun after => by
    have := le_year_iff.mp after
    omega
  simp only [isValidYmd, dayNumber_dateOf, Bool.and_eq_true, decide_eq_true_eq]
  exact ⟨⟨⟨⟨first, by omega⟩, within.1⟩, within.2⟩, trivial⟩

theorem dateOf_dayNumber {ymd : Date} (valid : isValidYmd ymd = true) :
    dateOf (dayNumber ymd) = ymd := by
  simp only [isValidYmd, Bool.and_eq_true, decide_eq_true_eq] at valid
  exact valid.2

theorem dayNumber_of_isValidYmd {ymd : Date} (valid : isValidYmd ymd = true) :
    dayNumber ⟨100, 1, 1⟩ ≤ dayNumber ymd ∧ dayNumber ymd < dayNumber ⟨10000, 1, 1⟩ := by
  have same := dateOf_dayNumber valid
  simp only [isValidYmd, Bool.and_eq_true, decide_eq_true_eq] at valid
  rw [← le_year_iff, ← not_le, ← le_year_iff, same]
  omega

theorem validateBookingRange_eq_none_iff {fromYmd toYmd : Date} {tz : Zone} :
    validateBookingRange (some fromYmd) (some toYmd) (some tz) = none <->
      (isValidYmd fromYmd = true ∧ isValidYmd toYmd = true) ∧
        dayNumber fromYmd ≤ dayNumber toYmd ∧ dayNumber toYmd ≤ dayNumber fromYmd + 92 := by
  rw [validateBookingRange, Option.filter_some, Option.filter_some, MAX_DAYS_RANGE_DAYS]
  cases isValidYmd fromYmd with
  | false => simp
  | true =>
    cases isValidYmd toYmd with
    | false => simp
    | true =>
      simp only [if_true, true_and, and_self, Option.isNone_some, Bool.false_eq_true, if_false]
      split
      · simp only [reduceCtorEq, false_iff]
        omega
      · split
        · simp only [reduceCtorEq, false_iff]
          omega
        · simp only [true_iff]
          omega

/-- The offset by which the listings count a date: that of the session twice, less that of `tz`. -/
def countedOffset (session tz : Zone) (day : Int) : Int :=
  session.castOffset (86400000 * day) +
    session.castOffset (tz.wall (session.cast (86400000 * day))) -
      tz.offset (session.cast (86400000 * day))

/-- No midnight has passed at the instant by the one offset and not by the other. -/
def MidnightsKept (session tz : Zone) (startAt : Int) : Prop :=
  ∀ day, WithinReach day ->
    (86400000 * day ≤ startAt + 60000 * countedOffset session tz day <->
      86400000 * day ≤ tz.wall startAt)

theorem dayBegin_eq (session tz : Zone) (day : Int) :
    dayBegin session tz day = 86400000 * day - 60000 * countedOffset session tz day := by
  rw [dayBegin, countedOffset, Zone.cast, Zone.wall, Zone.cast]
  omega

theorem castOffset_within (zone : Zone) (wall : Int) :
    -840 ≤ zone.castOffset wall ∧ zone.castOffset wall ≤ 840 := by
  rw [Zone.castOffset]
  split <;> exact zone.bounded _

theorem dayBegin_within (session tz : Zone) (day : Int) :
    86400000 * day - 151200000 ≤ dayBegin session tz day ∧
      dayBegin session tz day ≤ 86400000 * day + 151200000 := by
  have first := castOffset_within session (86400000 * day)
  have second := castOffset_within session (tz.wall (session.cast (86400000 * day)))
  have shown := tz.bounded (session.cast (86400000 * day))
  rw [dayBegin_eq, countedOffset]
  omega

theorem dayAt_within (tz : Zone) (startAt : Int) :
    86400000 * tz.dayAt startAt - 50400000 ≤ startAt ∧
      startAt < 86400000 * tz.dayAt startAt + 136800000 := by
  have shown := tz.bounded startAt
  rw [Zone.dayAt, Zone.wall]
  omega

theorem midnightsKept_iff {session tz : Zone} {startAt : Int} : MidnightsKept session tz startAt <->
      ∀ day, WithinReach day -> (dayBegin session tz day ≤ startAt <-> day ≤ tz.dayAt startAt) := by
  refine forall_congr' fun day => imp_congr_right fun _ => ?_
  have passed : 86400000 * day ≤ startAt + 60000 * countedOffset session tz day <->
      dayBegin session tz day ≤ startAt := by
    rw [dayBegin_eq]
    omega
  have begun : 86400000 * day ≤ tz.wall startAt <-> day ≤ tz.dayAt startAt := by
    rw [Zone.dayAt]
    omega
  rw [passed, begun]

/-- Between two midnights there are just the instants of the local days from the one to the
other. -/
def RangesKept (session tz : Zone) (startAt : Int) : Prop :=
  ∀ first last, WithinReach first -> first ≤ last -> last ≤ first + 92 ->
    WithinReach (last + 1) ->
    (dayBegin session tz first ≤ startAt ∧ startAt < dayBegin session tz (last + 1) <->
      first ≤ tz.dayAt startAt ∧ tz.dayAt startAt ≤ last)

theorem rangesKept_of_midnightsKept {session tz : Zone} {startAt : Int}
    (kept : MidnightsKept session tz startAt) : RangesKept session tz startAt := by
  intro first last begins ordered short ends
  have atFirst := midnightsKept_iff.mp kept first begins
  have atLast := midnightsKept_iff.mp kept (last + 1) ends
  omega

theorem midnightsKept_of_rangesKept {session tz : Zone} {startAt : Int} (late : 0 ≤ startAt)
    (kept : RangesKept session tz startAt) : MidnightsKept session tz startAt := by
  have era : dayNumber ⟨100, 1, 1⟩ + 10 ≤ 0 := by decide
  have near := dayAt_within tz startAt
  refine midnightsKept_iff.mpr fun day reach => ⟨fun begun => ?_, fun passed => ?_⟩
  · by_contra ahead
    have ⟨_, upTo⟩ := reach
    have place := dayBegin_within session tz day
    have today := kept (tz.dayAt startAt) (tz.dayAt startAt) ⟨by omega, by omega⟩ (Int.le_refl _)
      (by omega) ⟨by omega, by omega⟩
    have until_ := kept (tz.dayAt startAt) (day - 1) ⟨by omega, by omega⟩ (by omega) (by omega)
      ⟨by omega, by omega⟩
    rw [Int.sub_add_cancel] at until_
    omega
  · by_contra missing
    have ⟨_, upTo⟩ := reach
    have place := dayBegin_within session tz day
    have start := dayBegin_within session tz (day - 6)
    have before := kept (day - 6) (day - 1) ⟨by omega, by omega⟩ (by omega) (by omega)
      ⟨by omega, by omega⟩
    rw [Int.sub_add_cancel] at before
    omega

/-! ## Days and times agree -/

/-- Below its limit the listing for a day has the visible slots of that local day, and the days of
a range are those that list any. -/
structure Agree (shown : OpenSlots) (teacherAccountId : RowId) (tz : Zone) : Prop where
  times : ∀ ymd limit, isValidYmd ymd = true ->
    (listOpenBookingTimes shown teacherAccountId ymd tz limit).length < timesLimit limit ->
    (listOpenBookingTimes shown teacherAccountId ymd tz limit).Perm (shown.slots.filter fun slot =>
      upcoming shown teacherAccountId slot && decide (tz.dayAt slot.startAt = dayNumber ymd) &&
        shown.visible slot)
  days : ∀ fromYmd toYmd limit,
    validateBookingRange (some fromYmd) (some toYmd) (some tz) = none -> ∀ ymd,
      ymd ∈ listOpenBookingDays shown teacherAccountId fromYmd toYmd tz <->
        (dayNumber fromYmd ≤ dayNumber ymd ∧ dayNumber ymd ≤ dayNumber toYmd) ∧
          listOpenBookingTimes shown teacherAccountId ymd tz limit ≠ []

section Agreement

variable {shown : OpenSlots} {teacherAccountId : RowId} {tz : Zone}

theorem listed_eq {slot : LessonSlot} (kept : upcoming shown teacherAccountId slot = true ->
      RangesKept shown.session tz slot.startAt)
    {first last : Int} (begins : WithinReach first) (ordered : first ≤ last)
    (short : last ≤ first + 92) (ends : WithinReach (last + 1)) :
    listed shown teacherAccountId tz first last slot = (upcoming shown teacherAccountId slot &&
        decide (first ≤ tz.dayAt slot.startAt ∧ tz.dayAt slot.startAt ≤ last) &&
          shown.visible slot) := by
  rw [listed]
  cases future : upcoming shown teacherAccountId slot with
  | false => rfl
  | true =>
    rw [decide_eq_decide.mpr (kept future first last begins ordered short ends)]

theorem agree_of_rangesKept
    (kept : ∀ slot, slot ∈ shown.slots -> upcoming shown teacherAccountId slot = true ->
      RangesKept shown.session tz slot.startAt) : Agree shown teacherAccountId tz := by
  have daily : ∀ ymd, isValidYmd ymd = true -> ∀ slot, slot ∈ shown.slots ->
      listed shown teacherAccountId tz (dayNumber ymd) (dayNumber ymd) slot =
        (upcoming shown teacherAccountId slot &&
          decide (tz.dayAt slot.startAt = dayNumber ymd) && shown.visible slot) := by
    intro ymd valid slot member
    have reach := dayNumber_of_isValidYmd valid
    rw [listed_eq (kept slot member) ⟨reach.1, reach.2.le⟩ (Int.le_refl _) (by omega)
      ⟨by omega, by omega⟩]
    congr 2
    exact decide_eq_decide.mpr (by omega)
  refine ⟨?_, ?_⟩
  · intro ymd limit valid below
    refine (listOpenBookingTimes_perm valid below).trans (List.Perm.of_eq ?_)
    exact List.filter_congr fun slot member => daily ymd valid slot member
  · intro fromYmd toYmd limit range ymd
    have ⟨⟨validFrom, validTo⟩, ordered, short⟩ := validateBookingRange_eq_none_iff.mp range
    have first := dayNumber_of_isValidYmd validFrom
    have last := dayNumber_of_isValidYmd validTo
    rw [mem_listOpenBookingDays, listOpenBookingTimes_ne_nil_iff]
    constructor
    · rintro ⟨-, slot, ⟨member, holds⟩, rfl⟩
      rw [listed_eq (kept slot member) ⟨first.1, first.2.le⟩ ordered short ⟨by omega, by omega⟩]
        at holds
      simp only [Bool.and_eq_true, decide_eq_true_eq] at holds
      have valid : isValidYmd (dateOf (tz.dayAt slot.startAt)) = true :=
        isValidYmd_dateOf (by omega) (by omega)
      refine ⟨by rw [dayNumber_dateOf]; exact holds.1.2, valid, slot, member, ?_⟩
      rw [daily _ valid slot member, dayNumber_dateOf]
      simp only [holds.1.1, holds.2, decide_true, Bool.and_true]
    · rintro ⟨within, valid, slot, member, holds⟩
      rw [daily ymd valid slot member] at holds
      simp only [Bool.and_eq_true, decide_eq_true_eq] at holds
      refine ⟨⟨validFrom, validTo⟩, slot, ⟨member, ?_⟩, ?_⟩
      · rw [listed_eq (kept slot member) ⟨first.1, first.2.le⟩ ordered short ⟨by omega, by omega⟩,
          holds.1.2]
        simp only [holds.1.1, holds.2, within, and_self, decide_true, Bool.and_true]
      · rw [holds.1.2, dateOf_dayNumber valid]

def seeingOnly (shown : OpenSlots) (slot : LessonSlot) : OpenSlots :=
  { shown with visible := fun other => decide (other = slot) }

theorem listed_seeingOnly {slot : LessonSlot}
    (future : upcoming shown teacherAccountId slot = true) {first last : Int} {other : LessonSlot} :
    listed (seeingOnly shown slot) teacherAccountId tz first last other = true <->
      other = slot ∧ dayBegin shown.session tz first ≤ slot.startAt ∧
        slot.startAt < dayBegin shown.session tz (last + 1) := by
  simp only [listed, seeingOnly, Bool.and_eq_true, decide_eq_true_eq]
  constructor
  · rintro ⟨⟨-, within⟩, rfl⟩
    exact ⟨rfl, of_decide_eq_true within⟩
  · rintro ⟨rfl, within⟩
    exact ⟨⟨future, decide_eq_true within⟩, rfl⟩

theorem length_seeingOnly {slot : LessonSlot} (distinct : shown.slots.Nodup)
    (future : upcoming shown teacherAccountId slot = true) (tz : Zone) (ymd : Date) :
    (listOpenBookingTimes (seeingOnly shown slot) teacherAccountId ymd tz none).length <
      timesLimit none := by
  have limit : timesLimit none = 96 := rfl
  rw [listOpenBookingTimes]
  split
  · rw [limit]
    exact Nat.zero_lt_succ _
  · have single : (shown.slots.filter (listed (seeingOnly shown slot) teacherAccountId tz
        (dayNumber ymd) (dayNumber ymd))).length ≤ [slot].length := by
      refine (List.subperm_of_subset (distinct.filter _) fun other member => ?_).length_le
      exact List.mem_singleton.mpr
        ((listed_seeingOnly future).mp (List.mem_filter.mp member).2).1
    rw [List.length_take, List.length_insertionSort]
    refine Nat.lt_of_le_of_lt (Nat.min_le_right _ _) (Nat.lt_of_le_of_lt single ?_)
    rw [limit, List.length_singleton]
    decide

theorem rangesKept_of_agree {slot : LessonSlot} (member : slot ∈ shown.slots)
    (distinct : shown.slots.Nodup) (future : upcoming shown teacherAccountId slot = true)
    (agree : Agree (seeingOnly shown slot) teacherAccountId tz) :
    RangesKept shown.session tz slot.startAt := by
  -- by the times of a day, the slot is in its window just if its local date is the day
  have daily : ∀ day, dayNumber ⟨100, 1, 1⟩ ≤ day -> day < dayNumber ⟨10000, 1, 1⟩ ->
      (dayBegin shown.session tz day ≤ slot.startAt ∧
        slot.startAt < dayBegin shown.session tz (day + 1) <-> tz.dayAt slot.startAt = day) := by
    intro day late early
    have valid := isValidYmd_dateOf late early
    have below := length_seeingOnly distinct future tz (dateOf day)
    have same := (listOpenBookingTimes_perm valid below).symm.trans
      (agree.times (dateOf day) none valid below)
    have agrees := same.mem_iff (a := slot)
    simp only [List.mem_filter, listed_seeingOnly future, dayNumber_dateOf, Bool.and_eq_true,
      decide_eq_true_eq] at agrees
    constructor
    · intro within
      exact (agrees.mp ⟨member, trivial, within⟩).2.1.2
    · intro today
      exact (agrees.mpr ⟨member, ⟨future, today⟩, decide_eq_true rfl⟩).2.2
  intro first last begins ordered short ends
  have ⟨late, _⟩ := begins
  have ⟨_, early⟩ := ends
  have validFirst := isValidYmd_dateOf late (by omega)
  have validLast := isValidYmd_dateOf (by omega : _ ≤ last) (by omega)
  have range :
      validateBookingRange (some (dateOf first)) (some (dateOf last)) (some tz) = none := by
    rw [validateBookingRange_eq_none_iff, dayNumber_dateOf, dayNumber_dateOf]
    exact ⟨⟨validFirst, validLast⟩, ordered, short⟩
  have agrees := agree.days (dateOf first) (dateOf last) none range
    (dateOf (tz.dayAt slot.startAt))
  rw [mem_listOpenBookingDays, listOpenBookingTimes_ne_nil_iff] at agrees
  simp only [listed_seeingOnly future, dayNumber_dateOf, validFirst, validLast, and_self,
    true_and] at agrees
  constructor
  · intro within
    exact (agrees.mp ⟨slot, ⟨member, rfl, within⟩, rfl⟩).1
  · intro between
    have today := (daily (tz.dayAt slot.startAt) (by omega) (by omega)).mpr rfl
    have valid := isValidYmd_dateOf (by omega : _ ≤ tz.dayAt slot.startAt) (by omega)
    obtain ⟨_, ⟨_, _, within⟩, _⟩ := agrees.mpr ⟨between, valid, slot, member, rfl, today⟩
    exact within

end Agreement

/-- Days and times agree for every viewer if and only if the midnights of all slots are kept. -/
theorem bookingDays_agree_iff (shown : OpenSlots) (distinct : shown.slots.Nodup)
    (teacherAccountId : RowId) (tz : Zone) :
    (∀ visible, Agree { shown with visible := visible } teacherAccountId tz) <->
      ∀ slot, slot ∈ shown.slots -> upcoming shown teacherAccountId slot = true ->
        MidnightsKept shown.session tz slot.startAt := by
  constructor
  · intro agree slot member future
    exact midnightsKept_of_rangesKept (Int.natCast_nonneg _)
      (rangesKept_of_agree member distinct future (agree _))
  · intro kept visible
    exact agree_of_rangesKept fun slot member future =>
      rangesKept_of_midnightsKept (kept slot member future)

def fiveHoursBehind : Zone where
  offset := fun _ => -300
  bounded := fun _ => by decide
  apart := fun _ _ _ turns => absurd rfl turns

/-- Seven in the morning of the fifth of January in Moscow, and an hour before it in New York. -/
def nightSlot : LessonSlot :=
  { id := .seeded 1
    teacherAccountId := .seeded 2
    startAt := 1767585600000
    durationMinutes := 60
    status := .open
    isPersonalEvent := false
    learnerAccountId := none
    tariffId := none
    snapshotAmountKopecks := none
    cancelledAt := none
    cancelledByAccountId := none
    cancellationReason := none
    markedAt := none
    updatedAt := 0 }

def nightShown : OpenSlots :=
  { session := Zone.universal
    now := 1767225600000
    slots := [nightSlot]
    visible := fun _ => true }

/-- A learner in Moscow finds the slot under its date, one in New York does not. -/
theorem bookingDays_agree_iff_night :
    (∀ visible, Agree { nightShown with visible := visible } nightSlot.teacherAccountId
        threeHoursAhead) ∧
      ¬∀ visible, Agree { nightShown with visible := visible } nightSlot.teacherAccountId
        fiveHoursBehind := by
  have law := bookingDays_agree_iff nightShown (List.nodup_singleton _) nightSlot.teacherAccountId
  refine ⟨(law threeHoursAhead).mpr ?_, fun agree => ?_⟩
  · intro slot member _ day _
    rw [List.mem_singleton.mp member]
    change 86400000 * day ≤ 1767585600000 + 60000 * (-180) <->
      86400000 * day ≤ 1767585600000 + 60000 * 180
    omega
  · have kept := (law fiveHoursBehind).mp agree nightSlot (List.mem_singleton_self _) rfl 20458
      ⟨by decide, by decide⟩
    exact absurd (kept.mp (by decide +kernel)) (by decide +kernel)

/-- A slot in the night is listed for the day after. -/
theorem not_agree_night :
    ¬∀ (shown : OpenSlots) (teacherAccountId : RowId) (tz : Zone), shown.slots.Nodup ->
      Agree shown teacherAccountId tz := by
  intro all
  have agree := all nightShown nightSlot.teacherAccountId fiveHoursBehind (List.nodup_singleton _)
  have ofFourth : listOpenBookingTimes nightShown nightSlot.teacherAccountId ⟨2026, 1, 4⟩
      fiveHoursBehind none = [] := by
    decide +kernel
  have same := agree.times ⟨2026, 1, 4⟩ none (by decide) (by rw [ofFourth]; decide)
  rw [ofFourth] at same
  have none_ := same.symm.eq_nil
  have missing : nightSlot ∉ ([] : List LessonSlot) := List.not_mem_nil
  rw [← none_] at missing
  exact missing (by decide +kernel)

end BookingDays

end LevelChannel
