import LevelChannel.Scheduling.MoscowStarts

namespace LevelChannel

open Clocks

/-!
# The preview of recurring slots

A teacher asks for slots on some days of the week between two dates, at some times of the day.
The preview sorts what is asked for into slots and what is left out, and it stops when there are
more slots than can be created at once.  What it calls past began more than a minute ago, whereas
a slot can be created only if it begins after the present instant.
-/

namespace Recurrence

open BulkPreview MoscowStarts

structure RecurrenceInput where
  startDate : String
  endDate : String
  daysOfWeek : List Int
  times : List String
  durationMinutes : JsonNumber
  deriving DecidableEq

structure RecurrenceInputError where
  field : String
  message : String
  deriving DecidableEq, Repr

/-- `Date.UTC(year, month - 1, day)` as a day.  A month past the end of its year is one of the
next, and the years 0 to 99 are those of the twentieth century. -/
def utcDay (date : Date) : Int :=
  let year := if 0 ≤ date.year ∧ date.year ≤ 99 then 1900 + date.year else date.year
  dayNumber ⟨year + (date.month - 1) / 12, (date.month - 1) % 12 + 1, date.day⟩

/-- `parseUtcMidnightMs`, in days. -/
def parseUtcMidnight (ymd : String) : Except RecurrenceInputError Int :=
  match datePattern ymd with
  | none => .error ⟨"date", "invalid_format"⟩
  | some date => .ok (utcDay date)

def parseMskTimeToMinutes (time : String) : Except RecurrenceInputError Int :=
  match timeOf time with
  | none => .error ⟨"time", "invalid_format"⟩
  | some time => .ok (time.hour * 60 + time.minute)

def MAX_RECURRENCE_SPAN_DAYS : Int := 90

def MAX_EXPANDED_SLOTS : Nat := 200

def RECURRENCE_DURATION_MIN : Int := 15

def RECURRENCE_DURATION_MAX : Int := 180

structure RecurrencePlan where
  startDay : Int
  endDay : Int
  days : List Int
  minutesList : List Int
  durationMinutes : Int
  minutes_within : ∀ minutes, minutes ∈ minutesList -> 0 ≤ minutes ∧ minutes < 1440
  duration_within : RECURRENCE_DURATION_MIN ≤ durationMinutes ∧
    durationMinutes ≤ RECURRENCE_DURATION_MAX
  deriving DecidableEq

theorem minutes_within_of_parsed {times : List String} {minutesList : List Int}
    (parsed : times.mapM parseMskTimeToMinutes = .ok minutesList) :
    ∀ minutes, minutes ∈ minutesList -> 0 ≤ minutes ∧ minutes < 1440 := by
  induction times generalizing minutesList with
  | nil =>
    cases parsed
    exact fun _ none => absurd none List.not_mem_nil
  | cons time times ih =>
    rw [List.mapM_cons] at parsed
    cases first : parseMskTimeToMinutes time with
    | error error =>
      rw [first] at parsed
      cases parsed
    | ok minutes =>
      cases rest : times.mapM parseMskTimeToMinutes with
      | error error =>
        rw [first, rest] at parsed
        cases parsed
      | ok others =>
        rw [first, rest] at parsed
        cases parsed
        refine List.forall_mem_cons.mpr ⟨?_, ih rest⟩
        unfold parseMskTimeToMinutes at first
        split at first
        · cases first
        · rename_i clock _
          cases first
          have hour := clock.hour_lt
          have minute := clock.minute_lt
          omega

/-- The checks of `expandRecurrence`, in its order. -/
def checkRecurrenceInput (input : RecurrenceInput) : Except RecurrenceInputError RecurrencePlan :=
  match parseUtcMidnight input.startDate with
  | .error error => .error error
  | .ok startDay =>
    match parseUtcMidnight input.endDate with
    | .error error => .error error
    | .ok endDay =>
      if endDay < startDay then .error ⟨"endDate", "before_start"⟩
      else if MAX_RECURRENCE_SPAN_DAYS < endDay - startDay then .error ⟨"endDate", "span_too_long"⟩
      else if input.times = [] then .error ⟨"times", "empty"⟩
      else
        match input.durationMinutes with
        | .fractional => .error ⟨"durationMinutes", "not_allowed"⟩
        | .integer durationMinutes =>
          if banded : RECURRENCE_DURATION_MIN ≤ durationMinutes ∧
              durationMinutes ≤ RECURRENCE_DURATION_MAX then
            if input.daysOfWeek = [] ∧ 0 < endDay - startDay then
              .error ⟨"daysOfWeek", "empty_for_range"⟩
            else
              match parsed : input.times.mapM parseMskTimeToMinutes with
              | .error error => .error error
              | .ok minutesList =>
                .ok ⟨startDay, endDay, input.daysOfWeek, minutesList, durationMinutes,
                  minutes_within_of_parsed parsed, banded⟩
          else .error ⟨"durationMinutes", "not_allowed"⟩

structure ExpandedSlot where
  startUtc : Int
  durationMinutes : Int
  deriving DecidableEq

inductive SkipReason where
  | outsideBusinessHours
  | pastStart
  deriving DecidableEq, Repr

structure ExpandedSkip where
  startUtc : Int
  reason : SkipReason
  deriving DecidableEq

structure ExpandResult where
  slots : List ExpandedSlot
  skipped : List ExpandedSkip
  deriving DecidableEq

def MSK_OFFSET_MIN : Int :=
  3 * 60

/-- `mskWallToUtcIso`, of a day instead of its midnight. -/
def mskWallToUtc (day mskMinutes : Int) : Int :=
  86400000 * day + mskMinutes * 60 * 1000 - MSK_OFFSET_MIN * 60 * 1000

def withinBusinessHours (mskMinutes : Int) : Bool :=
  if 6 * 60 ≤ mskMinutes ∧ mskMinutes < 22 * 60 then true else mskMinutes = 22 * 60

/-- The inner loop, and whether it has returned from the function. -/
def expandTimes (nowMs durationMinutes day : Int) : List Int -> ExpandResult -> ExpandResult × Bool
  | [], result => (result, false)
  | mskMinutes :: rest, result =>
    let startUtc := mskWallToUtc day mskMinutes
    if ¬withinBusinessHours mskMinutes then
      expandTimes nowMs durationMinutes day rest
        { result with skipped := result.skipped ++ [⟨startUtc, .outsideBusinessHours⟩] }
    else if startUtc < nowMs - 60 * 1000 then
      expandTimes nowMs durationMinutes day rest
        { result with skipped := result.skipped ++ [⟨startUtc, .pastStart⟩] }
    else
      let result := { result with slots := result.slots ++ [⟨startUtc, durationMinutes⟩] }
      if MAX_EXPANDED_SLOTS < result.slots.length then (result, true)
      else expandTimes nowMs durationMinutes day rest result

namespace RecurrencePlan

variable (plan : RecurrencePlan)

def takes (day : Int) : Bool :=
  !(0 < plan.endDay - plan.startDay && weekday day ∉ plan.days)

def expandDays (nowMs : Int) : List Int -> ExpandResult -> ExpandResult
  | [], result => result
  | day :: rest, result =>
    if plan.takes day then
      match expandTimes nowMs plan.durationMinutes day plan.minutesList result with
      | (result, true) => result
      | (result, false) => expandDays nowMs rest result
    else expandDays nowMs rest result

def range : List Int :=
  (List.range (plan.endDay - plan.startDay + 1).toNat).map fun i => plan.startDay + i

end RecurrencePlan

def expandRecurrence (nowMs : Int) (input : RecurrenceInput) :
    Except RecurrenceInputError ExpandResult :=
  (checkRecurrenceInput input).map fun plan => plan.expandDays nowMs plan.range ⟨[], []⟩

/-! ## The candidates -/

structure Candidate where
  day : Int
  mskMinutes : Int
  deriving DecidableEq

def Candidate.startUtc (candidate : Candidate) : Int :=
  mskWallToUtc candidate.day candidate.mskMinutes

def Candidate.skip (nowMs : Int) (candidate : Candidate) : Option SkipReason :=
  if ¬withinBusinessHours candidate.mskMinutes then some .outsideBusinessHours
  else if candidate.startUtc < nowMs - 60 * 1000 then some .pastStart
  else none

def candidatesOf (day : Int) (minutesList : List Int) : List Candidate :=
  minutesList.map fun mskMinutes => ⟨day, mskMinutes⟩

def RecurrencePlan.candidatesOn (plan : RecurrencePlan) (days : List Int) : List Candidate :=
  (days.filter plan.takes).flatMap fun day => candidatesOf day plan.minutesList

def slotsOf (nowMs durationMinutes : Int) (candidates : List Candidate) : List ExpandedSlot :=
  (candidates.filter fun candidate => candidate.skip nowMs = none).map fun candidate =>
    ⟨candidate.startUtc, durationMinutes⟩

def skippedOf (nowMs : Int) (candidates : List Candidate) : List ExpandedSkip :=
  candidates.filterMap fun candidate =>
    (candidate.skip nowMs).map fun reason => ⟨candidate.startUtc, reason⟩

/-- The candidates are walked in their order, each into one of the two lists, to their end or to
the slot that is one too many. -/
def Walks (nowMs durationMinutes : Int) (candidates : List Candidate)
    (before after : ExpandResult) (returned : Bool) : Prop :=
  ∃ walked rest, candidates = walked ++ rest ∧
    after.slots = before.slots ++ slotsOf nowMs durationMinutes walked ∧
    after.skipped = before.skipped ++ skippedOf nowMs walked ∧
    (returned = false -> rest = [] ∧ after.slots.length ≤ MAX_EXPANDED_SLOTS) ∧
    (returned = true -> after.slots.length = MAX_EXPANDED_SLOTS + 1)

namespace Walks

variable {nowMs durationMinutes : Int} {candidate : Candidate} {candidates others : List Candidate}
  {before middle after : ExpandResult} {returned : Bool}

theorem skip {reason : SkipReason} (skipped : candidate.skip nowMs = some reason)
    (walks : Walks nowMs durationMinutes candidates
      { before with skipped := before.skipped ++ [⟨candidate.startUtc, reason⟩] } after returned) :
    Walks nowMs durationMinutes (candidate :: candidates) before after returned := by
  obtain ⟨walked, rest, rfl, slots, left, ends⟩ := walks
  refine ⟨candidate :: walked, rest, rfl, ?_, ?_, ends⟩
  · simp [slots, slotsOf, skipped]
  · simp [left, skippedOf, skipped]

theorem slot (kept : candidate.skip nowMs = none) (walks : Walks nowMs durationMinutes candidates
      { before with slots := before.slots ++ [⟨candidate.startUtc, durationMinutes⟩] } after
      returned) :
    Walks nowMs durationMinutes (candidate :: candidates) before after returned := by
  obtain ⟨walked, rest, rfl, slots, left, ends⟩ := walks
  refine ⟨candidate :: walked, rest, rfl, ?_, ?_, ends⟩
  · simp [slots, slotsOf, kept]
  · simp [left, skippedOf, kept]

theorem full (kept : candidate.skip nowMs = none) (room : before.slots.length ≤ MAX_EXPANDED_SLOTS)
    (overflows : MAX_EXPANDED_SLOTS < before.slots.length + 1) :
    Walks nowMs durationMinutes (candidate :: candidates) before
      { before with slots := before.slots ++ [⟨candidate.startUtc, durationMinutes⟩] } true := by
  refine ⟨[candidate], candidates, rfl, ?_, ?_, fun no => (nomatch no), fun _ => ?_⟩
  · simp [slotsOf, kept]
  · simp [skippedOf, kept]
  · simp only [List.length_append, List.length_singleton]
    omega

theorem append (walks : Walks nowMs durationMinutes candidates before middle false)
    (next : Walks nowMs durationMinutes others middle after returned) :
    Walks nowMs durationMinutes (candidates ++ others) before after returned := by
  obtain ⟨walked, rest, rfl, slots, left, ends, -⟩ := walks
  obtain ⟨rfl, -⟩ := ends rfl
  obtain ⟨walkedOn, restOn, rfl, slotsOn, leftOn, endsOn⟩ := next
  refine ⟨walked ++ walkedOn, restOn, by simp, ?_, ?_, endsOn⟩
  · simp [slotsOn, slots, slotsOf]
  · simp [leftOn, left, skippedOf]

theorem stop (walks : Walks nowMs durationMinutes candidates before after true)
    (others : List Candidate) :
    Walks nowMs durationMinutes (candidates ++ others) before after true := by
  obtain ⟨walked, rest, rfl, slots, left, -, ends⟩ := walks
  exact ⟨walked, rest ++ others, by simp, slots, left, fun no => (nomatch no), ends⟩

theorem nothing (room : before.slots.length ≤ MAX_EXPANDED_SLOTS) :
    Walks nowMs durationMinutes [] before before false :=
  ⟨[], [], rfl, by simp [slotsOf], by simp [skippedOf], fun _ => ⟨rfl, room⟩, fun no => nomatch no⟩

end Walks

theorem expandTimes_walks (nowMs durationMinutes day : Int) (minutesList : List Int)
    {before : ExpandResult} (room : before.slots.length ≤ MAX_EXPANDED_SLOTS) :
    Walks nowMs durationMinutes (candidatesOf day minutesList) before
      (expandTimes nowMs durationMinutes day minutesList before).1
      (expandTimes nowMs durationMinutes day minutesList before).2 := by
  induction minutesList generalizing before with
  | nil => exact .nothing room
  | cons mskMinutes minutesList ih =>
    have judged : Candidate.skip nowMs ⟨day, mskMinutes⟩ =
        if ¬withinBusinessHours mskMinutes then some .outsideBusinessHours
        else if mskWallToUtc day mskMinutes < nowMs - 60 * 1000 then some .pastStart
        else none := rfl
    change Walks nowMs durationMinutes (⟨day, mskMinutes⟩ :: candidatesOf day minutesList) _ _ _
    rw [expandTimes]
    dsimp only
    split
    case isTrue outside =>
      rw [if_pos outside] at judged
      exact .skip judged (ih room)
    case isFalse within =>
      rw [if_neg within] at judged
      split
      case isTrue past =>
        rw [if_pos past] at judged
        exact .skip judged (ih room)
      case isFalse present =>
        rw [if_neg present] at judged
        split
        case isTrue overflows =>
          exact .full judged room (by simpa using overflows)
        case isFalse fits =>
          exact .slot judged (ih (Nat.not_lt.mp fits))

theorem expandDays_walks (plan : RecurrencePlan) (nowMs : Int) (days : List Int)
    {before : ExpandResult} (room : before.slots.length ≤ MAX_EXPANDED_SLOTS) :
    ∃ returned, Walks nowMs plan.durationMinutes (plan.candidatesOn days) before
      (plan.expandDays nowMs days before) returned := by
  induction days generalizing before with
  | nil => exact ⟨false, .nothing room⟩
  | cons day days ih =>
    rw [RecurrencePlan.expandDays]
    split
    case isTrue taken =>
      have split_ : plan.candidatesOn (day :: days) =
          candidatesOf day plan.minutesList ++ plan.candidatesOn days := by
        simp [RecurrencePlan.candidatesOn, taken]
      have walks := expandTimes_walks nowMs plan.durationMinutes day plan.minutesList room
      rw [split_]
      split
      case h_1 result returned =>
        rw [returned] at walks
        exact ⟨true, walks.stop _⟩
      case h_2 result returned =>
        rw [returned] at walks
        have ⟨_, _, _, _, _, ends, _⟩ := walks
        obtain ⟨returnedLater, next⟩ := ih (ends rfl).2
        exact ⟨returnedLater, walks.append next⟩
    case isFalse other =>
      have same : plan.candidatesOn (day :: days) = plan.candidatesOn days := by
        simp [RecurrencePlan.candidatesOn, other]
      rw [same]
      exact ih room

/-! ## What can be created -/

/-- Both gates of the create path, at the same instant. -/
def Creatable (moscow : Zone) (nowMs : Nat) (slot : ExpandedSlot) : Prop :=
  validateSlotInput nowMs ⟨some (some slot.startUtc.toNat), some (.integer slot.durationMinutes),
      none⟩ = none ∧
    MoscowStarts.validateSlotStartMsk moscow slot.startUtc = none

theorem validateSlotInput_eq_none {nowMs : Nat} {startUtc durationMinutes : Int}
    (banded : 15 ≤ durationMinutes ∧ durationMinutes ≤ 180) :
    validateSlotInput nowMs ⟨some (some startUtc.toNat), some (.integer durationMinutes), none⟩ =
      none <-> (nowMs : Int) < startUtc := by
  have inBand : ¬(durationMinutes < 15 ∨ 180 < durationMinutes) := by omega
  simp only [validateSlotInput, Option.any_some, Option.all_some, decide_eq_true_eq,
    Option.any_none, Bool.or_eq_true, if_neg inBand, Bool.false_eq_true, if_false]
  split
  · refine iff_of_false (by simp) ?_
    omega
  · refine iff_of_true rfl ?_
    omega

theorem startMsk_of_kept {moscow : Zone} {nowMs : Int} {candidate : Candidate}
    (within : 0 ≤ candidate.mskMinutes ∧ candidate.mskMinutes < 1440)
    (kept : candidate.skip nowMs = none) (standard : moscow.offset candidate.startUtc = mskOffset) :
    MoscowStarts.validateSlotStartMsk moscow candidate.startUtc = none := by
  have hours : 360 ≤ candidate.mskMinutes ∧ candidate.mskMinutes ≤ 1320 := by
    unfold Candidate.skip at kept
    split at kept
    · cases kept
    · rename_i open_
      simp only [withinBusinessHours, not_not] at open_
      split at open_
      · omega
      · have last := of_decide_eq_true open_
        omega
  have shown : moscow.timeAt candidate.startUtc = 60000 * candidate.mskMinutes := by
    rw [Zone.timeAt, Zone.wall, standard, Candidate.startUtc, mskWallToUtc, MSK_OFFSET_MIN,
      mskOffset]
    omega
  rw [MoscowStarts.validateSlotStartMsk_eq_none, shown]
  omega

/-- No candidate that is reached begins in the minute up to the present instant. -/
def NoneJustPast (nowMs : Nat) (plan : RecurrencePlan) : Prop :=
  ∀ earlier candidate later,
    plan.candidatesOn plan.range = earlier ++ candidate :: later ->
    (slotsOf nowMs plan.durationMinutes earlier).length ≤ MAX_EXPANDED_SLOTS ->
    candidate.skip nowMs = none -> (nowMs : Int) < candidate.startUtc

theorem mem_slotsOf {nowMs durationMinutes : Int} {candidates : List Candidate}
    {slot : ExpandedSlot} : slot ∈ slotsOf nowMs durationMinutes candidates <->
      ∃ candidate, candidate ∈ candidates ∧ candidate.skip nowMs = none ∧
        slot = ⟨candidate.startUtc, durationMinutes⟩ := by
  simp only [slotsOf, List.mem_map, List.mem_filter, decide_eq_true_eq, and_assoc]
  constructor
  · rintro ⟨candidate, member, kept, rfl⟩
    exact ⟨candidate, member, kept, rfl⟩
  · rintro ⟨candidate, member, kept, rfl⟩
    exact ⟨candidate, member, kept, rfl⟩

theorem length_slotsOf_append (nowMs durationMinutes : Int) (first second : List Candidate) :
    (slotsOf nowMs durationMinutes (first ++ second)).length =
      (slotsOf nowMs durationMinutes first).length +
        (slotsOf nowMs durationMinutes second).length := by
  simp [slotsOf]

theorem minutes_of_candidate {plan : RecurrencePlan} {days : List Int} {candidate : Candidate}
    (member : candidate ∈ plan.candidatesOn days) :
    0 ≤ candidate.mskMinutes ∧ candidate.mskMinutes < 1440 := by
  obtain ⟨day, _, onDay⟩ := List.mem_flatMap.mp member
  obtain ⟨mskMinutes, listed, rfl⟩ := List.mem_map.mp onDay
  exact plan.minutes_within mskMinutes listed

/-- The preview sorts its candidates, and what it promises can be created if and only if none that
it reaches began within the last minute. -/
theorem expandRecurrence_creatable_iff {moscow : Zone} {nowMs : Nat}
    (standard : ∀ instant, (nowMs : Int) < instant -> moscow.offset instant = mskOffset)
    {input : RecurrenceInput} {plan : RecurrencePlan}
    (checked : checkRecurrenceInput input = .ok plan) :
    (∃ result returned, expandRecurrence nowMs input = .ok result ∧
      Walks nowMs plan.durationMinutes (plan.candidatesOn plan.range) ⟨[], []⟩ result returned ∧
      ∀ slot, slot ∈ result.slots -> Creatable moscow nowMs slot) <-> NoneJustPast nowMs plan := by
  have banded := plan.duration_within
  have expanded : expandRecurrence nowMs input =
      .ok (plan.expandDays nowMs plan.range ⟨[], []⟩) := by
    rw [expandRecurrence, checked]
    rfl
  obtain ⟨returned, walks⟩ :=
    @expandDays_walks plan nowMs plan.range ⟨[], []⟩ (Nat.zero_le _)
  have sorted := walks
  obtain ⟨walked, rest, all, slots, -, ends, full⟩ := walks
  rw [List.nil_append] at slots
  have few : (slotsOf nowMs plan.durationMinutes walked).length ≤ MAX_EXPANDED_SLOTS + 1 := by
    rw [← slots]
    cases returned with
    | true => exact (full rfl).le
    | false => exact (ends rfl).2.trans (Nat.le_succ _)
  constructor
  · rintro ⟨result, _, same, -, creatable⟩ earlier candidate later split room kept
    rw [expanded] at same
    cases same
    have reached : candidate ∈ walked := by
      rcases List.append_eq_append_iff.mp (all.symm.trans split) with
        ⟨between, rfl, beyond⟩ | ⟨between, rfl, beyond⟩
      · -- the walk has not come so far, so it had its last slot before
        cases returned with
        | false => simp [(ends rfl).1] at beyond
        | true =>
          have last := full rfl
          rw [slots] at last
          rw [length_slotsOf_append] at room
          omega
      · cases between with
        | nil =>
          cases returned with
          | false => simp [(ends rfl).1] at beyond
          | true =>
            have last := full rfl
            rw [slots, List.append_nil] at last
            omega
        | cons first between =>
          cases beyond
          simp
    have isSlot := creatable ⟨candidate.startUtc, plan.durationMinutes⟩
      (slots ▸ mem_slotsOf.mpr ⟨candidate, reached, kept, rfl⟩)
    exact (validateSlotInput_eq_none banded).mp isSlot.1
  · intro future
    refine ⟨_, returned, expanded, sorted, fun slot listed => ?_⟩
    rw [slots] at listed
    obtain ⟨candidate, reached, kept, rfl⟩ := mem_slotsOf.mp listed
    obtain ⟨before, after, parts⟩ := List.append_of_mem reached
    have room : (slotsOf nowMs plan.durationMinutes before).length ≤ MAX_EXPANDED_SLOTS := by
      rw [parts, length_slotsOf_append] at few
      have counted : 0 < (slotsOf nowMs plan.durationMinutes (candidate :: after)).length :=
        List.length_pos_of_mem (mem_slotsOf.mpr ⟨candidate, List.mem_cons_self, kept, rfl⟩)
      omega
    have later := future before candidate (after ++ rest) (by rw [all, parts]; simp) room kept
    have within := minutes_of_candidate (all ▸ List.mem_append_left rest reached)
    exact ⟨(validateSlotInput_eq_none banded).mpr later,
      startMsk_of_kept within kept (standard _ later)⟩

private def noonLesson : RecurrenceInput :=
  ⟨"2026-01-05", "2026-01-05", [], ["12:00"], .integer 60⟩

private def noonPlan : RecurrencePlan where
  startDay := 20458
  endDay := 20458
  days := []
  minutesList := [720]
  durationMinutes := 60
  minutes_within := by simp
  duration_within := by decide

private theorem noonLesson_checked : checkRecurrenceInput noonLesson = .ok noonPlan := by
  decide +kernel

/-- At eleven the lesson at noon is to come. -/
theorem expandRecurrence_creatable_iff_noon :
    ∃ result returned, expandRecurrence 1767600000000 noonLesson = .ok result ∧
      Walks 1767600000000 60 (noonPlan.candidatesOn noonPlan.range) ⟨[], []⟩ result returned ∧
      ∀ slot, slot ∈ result.slots -> Creatable threeHoursAhead 1767600000000 slot :=
  (expandRecurrence_creatable_iff (fun _ _ => rfl) noonLesson_checked).mpr (by
    intro earlier candidate later split _ _
    have only : noonPlan.candidatesOn noonPlan.range = [⟨20458, 720⟩] := by rfl
    have member : candidate ∈ noonPlan.candidatesOn noonPlan.range := by
      rw [split]
      simp
    rw [only, List.mem_singleton] at member
    subst member
    decide)

/-- Half a minute past noon it is still among the slots, and refused when it is to be created. -/
theorem expandRecurrence_promises_past :
    ¬∀ (moscow : Zone) (nowMs : Nat) (input : RecurrenceInput) (plan : RecurrencePlan),
      (∀ instant, (nowMs : Int) < instant -> moscow.offset instant = mskOffset) ->
      checkRecurrenceInput input = .ok plan ->
      ∃ result returned, expandRecurrence nowMs input = .ok result ∧
        Walks nowMs plan.durationMinutes (plan.candidatesOn plan.range) ⟨[], []⟩ result returned ∧
        ∀ slot, slot ∈ result.slots -> Creatable moscow nowMs slot := by
  intro always
  obtain ⟨result, _, expanded, -, creatable⟩ := always threeHoursAhead 1767603630000 noonLesson
    noonPlan (fun _ _ => rfl) noonLesson_checked
  have promised : expandRecurrence 1767603630000 noonLesson = .ok ⟨[⟨1767603600000, 60⟩], []⟩ := by
    decide +kernel
  have same : result = ⟨[⟨1767603600000, 60⟩], []⟩ := Except.ok.inj (expanded.symm.trans promised)
  have refused := (creatable ⟨1767603600000, 60⟩ (by simp [same])).1
  revert refused
  decide

end Recurrence

end LevelChannel
