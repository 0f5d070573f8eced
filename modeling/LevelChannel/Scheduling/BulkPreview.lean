import Mathlib.Data.List.Basic
import Mathlib.Logic.ExistsUnique
import LevelChannel.Clocks.Zone
import LevelChannel.Schema.Text

namespace LevelChannel

open Clocks

/-!
# The preview of a bulk of slots

A teacher opens slots on some days of the week for some weeks, at one time of the day.  The
preview walks from midnight to midnight of universal time and asks at each for the local date and
weekday; the local time of that date is then turned into an instant.

East of universal time midnight has the local date that is meant.  West of it the local date is
still the day before, so the days walked are the day before the range and all of it but the last
day.  The instants themselves are right: two corrections find every local time that exists.
-/

namespace BulkPreview

structure TimeOfDay where
  hour : Nat
  minute : Nat
  hour_lt : hour < 24
  minute_lt : minute < 60
  deriving DecidableEq

def TimeOfDay.ms (time : TimeOfDay) : Int :=
  3600000 * time.hour + 60000 * time.minute

/-- `Date.UTC(year, month - 1, day, hour, minute, second)`, which takes the years 0 to 99 for those
of the twentieth century. -/
def dateUtc (date : Date) (hour minute second : Int) : Int :=
  let year := if 0 ≤ date.year ∧ date.year ≤ 99 then 1900 + date.year else date.year
  86400000 * dayNumber { date with year := year } + 3600000 * hour + 60000 * minute +
    1000 * second

/-- A date as it is formatted: no era is written, so the year before the first is written `1`. -/
def writtenDate (day : Int) : Date :=
  let date := dateOf day
  { date with year := if date.year ≤ 0 then 1 - date.year else date.year }

structure Parts where
  date : Date
  hour : Int
  minute : Int
  second : Int

/-- `formatToParts` with `hour12: false`, which writes 24 for the hour after midnight. -/
def formatToParts (zone : Zone) (instant : Int) : Parts :=
  let time := zone.timeAt instant
  { date := writtenDate (zone.dayAt instant)
    hour := if time / 3600000 = 0 then 24 else time / 3600000
    minute := time / 60000 % 60
    second := time / 1000 % 60 }

/-- `Math.round(ms / 60_000)` -/
def roundMinutes (ms : Int) : Int :=
  (ms + 30000) / 60000

def tzOffsetMinutes (utcMs : Int) (zone : Zone) : Int :=
  let parts := formatToParts zone utcMs
  let hour := if parts.hour = 24 then 0 else parts.hour
  let localMs := dateUtc parts.date hour parts.minute parts.second
  roundMinutes (localMs - utcMs)

/-- `wallTimeToUtcIso`, with the date in its parts. -/
def wallTimeToUtcIso (date : Date) (time : TimeOfDay) (zone : Zone) : Int :=
  let wall := dateUtc date time.hour time.minute 0
  let correct := fun utcMs => wall - tzOffsetMinutes utcMs zone * 60000
  correct (correct wall)

def isoDateInTz (utcMs : Int) (zone : Zone) : Date :=
  writtenDate (zone.dayAt utcMs)

def weekdayInTz (utcMs : Int) (zone : Zone) : Int :=
  weekday (zone.dayAt utcMs)

/-! ## What is asked for -/

structure BulkPreviewInput where
  weekdays : List JsonNumber
  startTime : String
  startDate : String
  weeks : JsonNumber
  durationMinutes : JsonNumber
  skipDates : List String
  timezone : Option String
  deriving DecidableEq

structure BulkPreviewError where
  field : String
  reason : String
  deriving DecidableEq, Repr

def digits : List Char -> Option Nat
  | [] => some 0
  | char :: rest =>
    if char.isDigit then
      (digits rest).map fun number => (char.toNat - '0'.toNat) * 10 ^ rest.length + number
    else none

/-- `TIME_PATTERN` -/
def timeOf (text : String) : Option TimeOfDay :=
  match text.toList with
  | [hourTens, hourOnes, ':', minuteTens, minuteOnes] =>
    match digits [hourTens, hourOnes], digits [minuteTens, minuteOnes] with
    | some hour, some minute =>
      if within : hour < 24 ∧ minute < 60 then some ⟨hour, minute, within.1, within.2⟩ else none
    | _, _ => none
  | _ => none

/-- `DATE_PATTERN` -/
def datePattern (text : String) : Option Date :=
  match text.toList with
  | [thousands, hundreds, tens, ones, '-', monthTens, monthOnes, '-', dayTens, dayOnes] =>
    match digits [thousands, hundreds, tens, ones], digits [monthTens, monthOnes],
        digits [dayTens, dayOnes] with
    | some year, some month, some day => some ⟨year, month, day⟩
    | _, _, _ => none
  | _ => none

def twoDigits (number : Int) : String :=
  if number < 10 then "0" ++ toString number else toString number

/-- The date as `en-CA` formats it. -/
def dateText (date : Date) : String :=
  toString date.year ++ "-" ++ twoDigits date.month ++ "-" ++ twoDigits date.day

def maxBulkWeeks : Nat := 26

/-- What is walked once the input has been checked.  A day past the end of its month is a day of
the next one. -/
structure BulkPlan where
  weekdays : List Int
  startTime : TimeOfDay
  startDate : Date
  weeks : Nat
  skipDates : List String
  year_nonneg : 0 ≤ startDate.year
  month_within : 1 ≤ startDate.month ∧ startDate.month ≤ 12
  day_within : 1 ≤ startDate.day ∧ startDate.day ≤ 31
  weeks_within : 1 ≤ weeks ∧ weeks ≤ maxBulkWeeks
  deriving DecidableEq

def BulkPlan.startDay (plan : BulkPlan) : Int :=
  dayNumber plan.startDate

/-- The loop body's `weekdays.has(weekday)`, and not `skip.has(dateInTz)`. -/
def BulkPlan.takes (plan : BulkPlan) (weekday : Int) (date : Date) : Bool :=
  weekday ∈ plan.weekdays && dateText date ∉ plan.skipDates

def weekdayOf : JsonNumber -> Option Int
  | .integer value => if value < 0 ∨ 6 < value then none else some value
  | .fractional => none

/-- The checks of `bulkGeneratePreview`, in its order. -/
def checkBulkPreviewInput (input : BulkPreviewInput) : Except BulkPreviewError BulkPlan :=
  if input.weekdays = [] then .error ⟨"weekdays", "empty"⟩
  else
    match input.weekdays.mapM weekdayOf with
    | none => .error ⟨"weekdays", "invalid"⟩
    | some weekdays =>
      match timeOf input.startTime with
      | none => .error ⟨"startTime", "invalid"⟩
      | some startTime =>
        match datePattern input.startDate with
        | none => .error ⟨"startDate", "invalid"⟩
        | some startDate =>
          match input.weeks with
          | .fractional => .error ⟨"weeks", "out_of_band"⟩
          | .integer weeks =>
            if banded : weeks < 1 ∨ maxBulkWeeks < weeks then .error ⟨"weeks", "out_of_band"⟩
            else
              match input.durationMinutes with
              | .fractional => .error ⟨"durationMinutes", "not_integer"⟩
              | .integer durationMinutes =>
                if durationMinutes < 15 ∨ 180 < durationMinutes then
                  .error ⟨"durationMinutes", "out_of_band"⟩
                else if input.skipDates.any fun text => (datePattern text).isNone then
                  .error ⟨"skipDates", "invalid"⟩
                -- `Date.parse` of the start date
                else if within : 0 ≤ startDate.year ∧
                    (1 ≤ startDate.month ∧ startDate.month ≤ 12) ∧
                      1 ≤ startDate.day ∧ startDate.day ≤ 31 then
                  .ok
                    { weekdays := weekdays
                      startTime := startTime
                      startDate := startDate
                      weeks := weeks.toNat
                      skipDates := input.skipDates
                      year_nonneg := within.1
                      month_within := within.2.1
                      day_within := within.2.2
                      weeks_within := by omega }
                else .error ⟨"startDate", "invalid"⟩

structure PreviewSlot where
  startAt : Int
  date : Date
  time : TimeOfDay
  deriving DecidableEq

/-- One day of the walk, unless it is not among those asked for or is past. -/
def BulkPlan.slotOn (plan : BulkPlan) (zone : Zone) (now : Int) (i : Nat) : Option PreviewSlot :=
  let dayMs := 86400000 * plan.startDay + i * 86400000
  let dateInTz := isoDateInTz dayMs zone
  if plan.takes (weekdayInTz dayMs zone) dateInTz then
    let startAt := wallTimeToUtcIso dateInTz plan.startTime zone
    if startAt ≤ now then none else some ⟨startAt, dateInTz, plan.startTime⟩
  else none

def BulkPlan.slots (plan : BulkPlan) (zone : Zone) (now : Int) : List PreviewSlot :=
  (List.range (plan.weeks * 7)).filterMap (plan.slotOn zone now)

/-- `input.timezone || 'Europe/Moscow'` -/
def BulkPreviewInput.tz (input : BulkPreviewInput) : String :=
  match input.timezone with
  | none => "Europe/Moscow"
  | some timezone => if timezone = "" then "Europe/Moscow" else timezone

def bulkGeneratePreview (zones : String -> Zone) (now : Int) (input : BulkPreviewInput) :
    Except BulkPreviewError (List PreviewSlot) :=
  match checkBulkPreviewInput input with
  | .error error => .error error
  | .ok plan => .ok (plan.slots (zones input.tz) now)

/-- The ids of `TIMEZONE_OPTIONS`. -/
def timezones : List String :=
  ["Europe/Moscow", "Europe/Kaliningrad", "Europe/Samara", "Asia/Yekaterinburg", "Asia/Omsk",
    "Asia/Krasnoyarsk", "Asia/Irkutsk", "Asia/Yakutsk", "Asia/Vladivostok", "Asia/Magadan",
    "Asia/Kamchatka", "Asia/Tbilisi", "Asia/Yerevan", "Asia/Almaty", "Asia/Dubai",
    "Europe/London", "Europe/Berlin", "America/New_York", "America/Los_Angeles"]

def wallOf (day : Int) (time : TimeOfDay) : Int :=
  86400000 * day + time.ms

def BulkPlan.asks (plan : BulkPlan) (day : Int) : Bool :=
  plan.takes (weekday day) (dateOf day)

/-- The slots are at the future instants that show the start time on a day that is asked for, in
the weeks from the start date on, in order. -/
structure PreviewExact (plan : BulkPlan) (zone : Zone) (now : Int) (slots : List PreviewSlot) :
    Prop where
  exactly : ∀ instant, instant ∈ slots.map PreviewSlot.startAt <->
    now < instant ∧ (plan.startDay ≤ zone.dayAt instant ∧
      zone.dayAt instant < plan.startDay + 7 * plan.weeks) ∧
        plan.asks (zone.dayAt instant) = true ∧ zone.timeAt instant = plan.startTime.ms
  increasing : (slots.map PreviewSlot.startAt).Pairwise (· < ·)

def western : List String :=
  ["America/New_York", "America/Los_Angeles"]

/-- How far the local date at midnight of universal time is behind. -/
def lag (west : Bool) : Int :=
  if west then 1 else 0

/-- The zone's clocks are all behind universal time, or none of them is. -/
def Sided (zone : Zone) (west : Bool) : Prop :=
  ∀ instant, if west then zone.offset instant < 0 else 0 ≤ zone.offset instant

/-- The walk meets every day that is asked for, at a time that it shows once. -/
structure Covered (plan : BulkPlan) (zone : Zone) (west : Bool) : Prop where
  once : ∀ day, plan.startDay ≤ day -> day + lag west < plan.startDay + 7 * plan.weeks ->
    plan.asks day = true -> ∃! instant, zone.wall instant = wallOf day plan.startTime
  before : west = true -> plan.asks (plan.startDay - 1) = false
  after : west = true -> plan.asks (plan.startDay + 7 * plan.weeks - 1) = true ->
    ∀ instant, zone.wall instant ≠ wallOf (plan.startDay + 7 * plan.weeks - 1) plan.startTime

theorem TimeOfDay.ms_within (time : TimeOfDay) : 0 ≤ time.ms ∧ time.ms < 86400000 := by
  have hour := time.hour_lt
  have minute := time.minute_lt
  rw [TimeOfDay.ms]
  omega

theorem wall_eq_wallOf_iff {zone : Zone} {instant day : Int} {time : TimeOfDay} :
    zone.wall instant = wallOf day time <->
      zone.dayAt instant = day ∧ zone.timeAt instant = time.ms := by
  have within := time.ms_within
  rw [Zone.dayAt, Zone.timeAt, wallOf]
  omega

theorem dateUtc_writtenDate {day : Int} (era : dayNumber ⟨100, 1, 1⟩ ≤ day)
    (hour minute second : Int) : dateUtc (writtenDate day) hour minute second =
      86400000 * day + 3600000 * hour + 60000 * minute + 1000 * second := by
  have year : 100 ≤ (dateOf day).year := le_year_iff.mpr era
  have late : ¬ ((dateOf day).year ≤ 0) := by omega
  have old : ¬ (0 ≤ (dateOf day).year ∧ (dateOf day).year ≤ 99) := by omega
  rw [dateUtc, writtenDate]
  simp only [if_neg late, if_neg old]
  rw [dayNumber_dateOf]

theorem clamped_hour (hour : Int) (within : hour < 24) :
    (if (if hour = 0 then 24 else hour) = 24 then 0 else if hour = 0 then 24 else hour) = hour := by
  by_cases midnight : hour = 0
  · rw [if_pos midnight, if_pos rfl, midnight]
  · rw [if_neg midnight, if_neg (by omega)]

theorem tzOffsetMinutes_eq {zone : Zone} {instant : Int} (whole : instant % 60000 = 0)
    (era : dayNumber ⟨100, 1, 1⟩ ≤ zone.dayAt instant) :
    tzOffsetMinutes instant zone = zone.offset instant := by
  have shows : 86400000 * zone.dayAt instant + zone.timeAt instant =
      instant + 60000 * zone.offset instant := by
    rw [Zone.dayAt, Zone.timeAt, Int.mul_ediv_add_emod, Zone.wall]
  have within : 0 ≤ zone.timeAt instant ∧ zone.timeAt instant < 86400000 := by
    rw [Zone.timeAt]
    omega
  rw [tzOffsetMinutes, formatToParts, roundMinutes]
  simp only [clamped_hour _ (by omega : zone.timeAt instant / 3600000 < 24),
    dateUtc_writtenDate era]
  omega

theorem wallTimeToUtcIso_eq {zone : Zone} {day : Int} (era : dayNumber ⟨100, 1, 1⟩ + 2 ≤ day)
    (time : TimeOfDay) :
    wallTimeToUtcIso (writtenDate day) time zone = zone.secondGuess (wallOf day time) := by
  have within := time.ms_within
  have candidate : dateUtc (writtenDate day) time.hour time.minute 0 = wallOf day time := by
    rw [dateUtc_writtenDate (by omega), wallOf, TimeOfDay.ms]
    omega
  have minutes : wallOf day time % 60000 = 0 := by
    rw [wallOf, TimeOfDay.ms]
    omega
  have near := zone.bounded (wallOf day time)
  have close := zone.bounded (wallOf day time - zone.offset (wallOf day time) * 60000)
  have first : tzOffsetMinutes (wallOf day time) zone = zone.offset (wallOf day time) := by
    refine tzOffsetMinutes_eq minutes ?_
    rw [Zone.dayAt, Zone.wall]
    rw [wallOf] at near ⊢
    omega
  have second : tzOffsetMinutes (wallOf day time - zone.offset (wallOf day time) * 60000) zone =
      zone.offset (wallOf day time - zone.offset (wallOf day time) * 60000) := by
    refine tzOffsetMinutes_eq (by omega) ?_
    rw [Zone.dayAt, Zone.wall]
    have low : 86400000 * day ≤ wallOf day time := by
      rw [wallOf]
      omega
    omega
  rw [wallTimeToUtcIso]
  simp only [candidate, first, second]
  rw [Zone.secondGuess, Zone.guess, Zone.guess, Int.mul_comm 60000, Int.mul_comm 60000]

/-- A date and time that some instant shows is shown by the instant that is found. -/
theorem wallTimeToUtcIso_shows {zone : Zone} {date : Date} {time : TimeOfDay}
    (years : 1000 ≤ date.year)
    (there : ∃ instant, dateOf (zone.dayAt instant) = date ∧ zone.timeAt instant = time.ms) :
    dateOf (zone.dayAt (wallTimeToUtcIso date time zone)) = date ∧
      zone.timeAt (wallTimeToUtcIso date time zone) = time.ms := by
  rcases there with ⟨instant, onDate, atTime⟩
  have era : dayNumber ⟨1000, 1, 1⟩ ≤ zone.dayAt instant := by
    rw [← le_year_iff, onDate]
    exact years
  have later : dayNumber ⟨100, 1, 1⟩ + 2 ≤ dayNumber ⟨1000, 1, 1⟩ := by decide
  have written : writtenDate (zone.dayAt instant) = date := by
    rw [writtenDate, onDate]
    simp only [if_neg (by omega : ¬ (date.year ≤ 0))]
  have shown : zone.wall (zone.secondGuess (wallOf (zone.dayAt instant) time)) =
      wallOf (zone.dayAt instant) time :=
    Zone.wall_secondGuess ⟨instant, wall_eq_wallOf_iff.mpr ⟨rfl, atTime⟩⟩
  rw [← written, wallTimeToUtcIso_eq (by omega), written]
  rcases wall_eq_wallOf_iff.mp shown with ⟨sameDay, sameTime⟩
  rw [sameDay]
  exact ⟨onDate, sameTime⟩

section Walk

variable {plan : BulkPlan} {zone : Zone} {west : Bool} {now : Int}

theorem Sided.dayAt_midnight (sided : Sided zone west) (day : Int) :
    zone.dayAt (86400000 * day) = day - lag west := by
  have side := sided (86400000 * day)
  have bounds := zone.bounded (86400000 * day)
  rw [Zone.dayAt, Zone.wall, lag]
  cases west with
  | true =>
    rw [if_pos rfl] at side ⊢
    omega
  | false =>
    rw [if_neg Bool.false_ne_true] at side ⊢
    omega

theorem Sided.near (sided : Sided zone west) (wall : Int) :
    wall - 50400000 ≤ zone.wall (zone.secondGuess wall) ∧
      zone.wall (zone.secondGuess wall) ≤ wall + 50400000 := by
  cases west with
  | true =>
    have within : ∀ instant, -840 ≤ zone.offset instant ∧ zone.offset instant ≤ 0 := by
      intro instant
      have side := sided instant
      rw [if_pos rfl] at side
      exact ⟨(zone.bounded instant).1, by omega⟩
    exact Zone.wall_secondGuess_near within wall
  | false =>
    have within : ∀ instant, 0 ≤ zone.offset instant ∧ zone.offset instant ≤ 840 := by
      intro instant
      have side := sided instant
      rw [if_neg Bool.false_ne_true] at side
      exact ⟨side, (zone.bounded instant).2⟩
    exact Zone.wall_secondGuess_near within wall

theorem Sided.same_day (sided : Sided zone west) {day other : Int} {time : TimeOfDay}
    (shows : zone.wall (zone.secondGuess (wallOf day time)) = wallOf other time) : other = day := by
  have near := sided.near (wallOf day time)
  rw [shows, wallOf, wallOf] at near
  omega

theorem Sided.secondGuess_lt (sided : Sided zone west) {day other : Int} (ordered : day < other)
    (time : TimeOfDay) :
    zone.secondGuess (wallOf day time) < zone.secondGuess (wallOf other time) := by
  have early := sided (zone.guess (wallOf day time) (wallOf day time))
  have late := sided (zone.guess (wallOf other time) (wallOf other time))
  have low := zone.bounded (zone.guess (wallOf day time) (wallOf day time))
  have high := zone.bounded (zone.guess (wallOf other time) (wallOf other time))
  rw [Zone.secondGuess, Zone.secondGuess]
  generalize zone.guess (wallOf day time) (wallOf day time) = first at *
  generalize zone.guess (wallOf other time) (wallOf other time) = second at *
  rw [Zone.guess, Zone.guess, wallOf, wallOf]
  cases west with
  | true =>
    rw [if_pos rfl] at early late
    omega
  | false =>
    rw [if_neg Bool.false_ne_true] at early late
    omega

theorem slotOn_eq_some (sided : Sided zone west) {i : Nat} {slot : PreviewSlot} :
    plan.slotOn zone now i = some slot <-> plan.takes (weekday (plan.startDay + i - lag west))
          (writtenDate (plan.startDay + i - lag west)) = true ∧
        slot = ⟨wallTimeToUtcIso (writtenDate (plan.startDay + i - lag west)) plan.startTime zone,
          writtenDate (plan.startDay + i - lag west), plan.startTime⟩ ∧ now < slot.startAt := by
  have day : zone.dayAt (86400000 * plan.startDay + i * 86400000) =
      plan.startDay + i - lag west := by
    rw [← sided.dayAt_midnight]
    congr 1
    omega
  rw [BulkPlan.slotOn, isoDateInTz, weekdayInTz, day]
  by_cases takes : plan.takes (weekday (plan.startDay + i - lag west))
      (writtenDate (plan.startDay + i - lag west)) = true
  · simp only [takes, if_true, true_and]
    split
    · next past =>
      constructor
      · intro added
        cases added
      · rintro ⟨same, future⟩
        rw [same] at future
        exact absurd future (Int.not_lt.mpr past)
    · next future =>
      constructor
      · intro added
        injection added with added
        subst added
        exact ⟨rfl, Int.not_le.mp future⟩
      · intro both
        rw [both.1]
  · simp only [takes, if_false, false_and, reduceCtorEq]

theorem writtenDate_eq {day : Int} (era : dayNumber ⟨1, 1, 1⟩ ≤ day) :
    writtenDate day = dateOf day := by
  have year : 1 ≤ (dateOf day).year := le_year_iff.mpr era
  rw [writtenDate]
  simp only [if_neg (by omega : ¬ ((dateOf day).year ≤ 0))]

theorem BulkPlan.newYear_le_startDay {year : Int} (era : year ≤ plan.startDate.year) :
    dayNumber ⟨year, 1, 1⟩ ≤ plan.startDay :=
  calc dayNumber ⟨year, 1, 1⟩
    _ ≤ dayNumber ⟨plan.startDate.year, 1, 1⟩ := dayNumber_le_of_year_le era 1 1
    _ ≤ plan.startDay := newYear_le plan.month_within plan.day_within.1

theorem mem_starts (sided : Sided zone west) (era : 1000 ≤ plan.startDate.year) {instant : Int} :
    instant ∈ (plan.slots zone now).map PreviewSlot.startAt <->
      ∃ day, (plan.startDay ≤ day + lag west ∧ day + lag west < plan.startDay + 7 * plan.weeks) ∧
        plan.asks day = true ∧ zone.secondGuess (wallOf day plan.startTime) = instant ∧
          now < instant := by
  have start := plan.newYear_le_startDay era
  have early : dayNumber ⟨100, 1, 1⟩ + 3 ≤ dayNumber ⟨1000, 1, 1⟩ := by decide
  have first : dayNumber ⟨1, 1, 1⟩ ≤ dayNumber ⟨100, 1, 1⟩ := by decide
  have behind : 0 ≤ lag west ∧ lag west ≤ 1 := by cases west <;> decide
  have found : ∀ day, plan.startDay ≤ day + lag west ->
      (plan.takes (weekday day) (writtenDate day) = plan.asks day ∧
        wallTimeToUtcIso (writtenDate day) plan.startTime zone =
          zone.secondGuess (wallOf day plan.startTime)) := by
    intro day from_start
    refine ⟨?_, wallTimeToUtcIso_eq (by omega) _⟩
    rw [BulkPlan.asks, writtenDate_eq (by omega)]
  rw [BulkPlan.slots, List.mem_map]
  constructor
  · rintro ⟨slot, listed, same⟩
    rcases List.mem_filterMap.mp listed with ⟨i, within, added⟩
    rw [List.mem_range] at within
    rcases (slotOn_eq_some sided).mp added with ⟨takes, built, future⟩
    rcases found (plan.startDay + i - lag west) (by omega) with ⟨asks, finds⟩
    refine ⟨plan.startDay + i - lag west, by omega, asks ▸ takes, ?_, same ▸ future⟩
    rw [← same, built, finds]
  · rintro ⟨day, within, asks, finds, future⟩
    rcases found day within.1 with ⟨takes, at_wall⟩
    have index : plan.startDay + (day + lag west - plan.startDay).toNat - lag west = day := by
      omega
    refine ⟨⟨wallTimeToUtcIso (writtenDate day) plan.startTime zone, writtenDate day,
      plan.startTime⟩, ?_, at_wall.trans finds⟩
    refine List.mem_filterMap.mpr ⟨(day + lag west - plan.startDay).toNat, ?_, ?_⟩
    · rw [List.mem_range]
      omega
    · rw [slotOn_eq_some sided, index]
      exact ⟨takes.trans asks, rfl, by rw [at_wall, finds]; exact future⟩

theorem starts_increasing (sided : Sided zone west) (era : 1000 ≤ plan.startDate.year) :
    ((plan.slots zone now).map PreviewSlot.startAt).Pairwise (· < ·) := by
  have start := plan.newYear_le_startDay era
  have early : dayNumber ⟨100, 1, 1⟩ + 3 ≤ dayNumber ⟨1000, 1, 1⟩ := by decide
  have behind : 0 ≤ lag west ∧ lag west ≤ 1 := by cases west <;> decide
  rw [BulkPlan.slots, List.pairwise_map]
  refine List.Pairwise.filterMap _ ?_ List.pairwise_lt_range
  intro i j ordered slot added later addedLater
  have built := ((slotOn_eq_some sided).mp added).2.1
  have builtLater := ((slotOn_eq_some sided).mp addedLater).2.1
  rw [built, builtLater]
  simp only
  rw [wallTimeToUtcIso_eq (by omega), wallTimeToUtcIso_eq (by omega)]
  exact sided.secondGuess_lt (by omega) _

theorem secondGuess_shows (sided : Sided zone west) {day : Int} {time : TimeOfDay}
    (shows : zone.timeAt (zone.secondGuess (wallOf day time)) = time.ms) :
    zone.wall (zone.secondGuess (wallOf day time)) = wallOf day time := by
  have shown := wall_eq_wallOf_iff.mpr ⟨rfl, shows⟩
  rw [shown, sided.same_day shown]

theorem Covered.exact (covered : Covered plan zone west) (sided : Sided zone west)
    (era : 1000 ≤ plan.startDate.year) (now : Int) :
    PreviewExact plan zone now (plan.slots zone now) := by
  refine ⟨fun instant => ?_, starts_increasing sided era⟩
  rw [mem_starts sided era]
  constructor
  · rintro ⟨day, within, asks, finds, future⟩
    have started : plan.startDay ≤ day := by
      by_contra early
      cases west with
      | true =>
        have day_before : day = plan.startDay - 1 := by
          rw [lag, if_pos rfl] at within
          omega
        rw [day_before, covered.before rfl] at asks
        exact Bool.false_ne_true asks
      | false =>
        rw [lag, if_neg Bool.false_ne_true] at within
        omega
    rcases covered.once day started within.2 asks with ⟨shown, shows, _⟩
    have wall := Zone.wall_secondGuess ⟨shown, shows⟩
    rw [finds] at wall
    rcases wall_eq_wallOf_iff.mp wall with ⟨on_day, at_time⟩
    have behind : 0 ≤ lag west := by cases west <;> decide
    rw [on_day]
    exact ⟨future, ⟨started, by omega⟩, asks, at_time⟩
  · rintro ⟨future, within, asks, at_time⟩
    have wall := wall_eq_wallOf_iff.mpr ⟨rfl, at_time⟩
    have met : zone.dayAt instant + lag west < plan.startDay + 7 * plan.weeks := by
      by_contra late
      cases west with
      | true =>
        have last : zone.dayAt instant = plan.startDay + 7 * plan.weeks - 1 := by
          rw [lag, if_pos rfl] at late
          omega
        rw [last] at asks wall
        exact covered.after rfl asks instant wall
      | false =>
        rw [lag, if_neg Bool.false_ne_true] at late
        omega
    have behind : 0 ≤ lag west := by cases west <;> decide
    refine ⟨zone.dayAt instant, ⟨by omega, met⟩, asks, ?_, future⟩
    exact (covered.once _ within.1 met asks).unique (Zone.wall_secondGuess ⟨instant, wall⟩) wall

theorem covered_of_exact (sided : Sided zone west) (era : 1000 ≤ plan.startDate.year)
    (exact_at : ∀ now, PreviewExact plan zone now (plan.slots zone now)) :
    Covered plan zone west := by
  have behind : 0 ≤ lag west ∧ lag west ≤ 1 := by cases west <;> decide
  -- what is walked and asked for is found by the walk that comes just before it
  have walked : ∀ day, plan.startDay ≤ day + lag west ->
      day + lag west < plan.startDay + 7 * plan.weeks -> plan.asks day = true ->
        zone.wall (zone.secondGuess (wallOf day plan.startTime)) = wallOf day plan.startTime ∧
          plan.startDay ≤ day := by
    intro day from_start upTo asks
    have listed := (mem_starts sided era).mpr ⟨day, ⟨from_start, upTo⟩, asks, rfl,
      Int.sub_one_lt_iff.mpr (le_refl (zone.secondGuess (wallOf day plan.startTime)))⟩
    rcases (exact_at _).exactly _ |>.mp listed with ⟨_, within, _, at_time⟩
    have wall := secondGuess_shows sided at_time
    refine ⟨wall, ?_⟩
    rw [(wall_eq_wallOf_iff.mp wall).1] at within
    exact within.1
  -- and what shows the time on a day of the range is found from a day that is walked
  have shown : ∀ day instant, plan.startDay ≤ day ->
      day < plan.startDay + 7 * plan.weeks -> plan.asks day = true ->
        zone.wall instant = wallOf day plan.startTime ->
          instant = zone.secondGuess (wallOf day plan.startTime) ∧
            day + lag west < plan.startDay + 7 * plan.weeks := by
    intro day instant from_start upTo asks wall
    rcases wall_eq_wallOf_iff.mp wall with ⟨on_day, at_time⟩
    have listed := ((exact_at (instant - 1)).exactly instant).mpr
      ⟨by omega, by rw [on_day]; exact ⟨from_start, upTo⟩, by rw [on_day]; exact asks, at_time⟩
    rcases (mem_starts sided era).mp listed with ⟨other, within, _, finds, _⟩
    have same : day = other := by
      refine @Sided.same_day zone west sided other day plan.startTime ?_
      rw [finds, wall]
    rw [same]
    exact ⟨finds.symm, within.2⟩
  refine ⟨fun day from_start upTo asks => ?_, fun behindUtc => ?_, fun behindUtc asks => ?_⟩
  · refine ⟨zone.secondGuess (wallOf day plan.startTime),
      (walked day (by omega) upTo asks).1, fun instant wall => ?_⟩
    exact (shown day instant from_start (by omega) asks wall).1
  · subst behindUtc
    rw [Bool.eq_false_iff]
    intro asks
    have weeks := plan.weeks_within
    have started := (walked (plan.startDay - 1) (by rw [lag, if_pos rfl]; omega)
      (by rw [lag, if_pos rfl]; omega) asks).2
    omega
  · subst behindUtc
    intro instant wall
    have weeks := plan.weeks_within
    have met := (shown _ instant (by omega) (by omega) asks wall).2
    rw [lag, if_pos rfl] at met
    omega

/-! ## Years of the first millennium -/

theorem dateUtc_writtenDate_ge (day hour minute second : Int) :
    86400000 * day + 3600000 * hour + 60000 * minute + 1000 * second ≤
      dateUtc (writtenDate day) hour minute second := by
  have later : (dateOf day).year ≤
      if 0 ≤ (writtenDate day).year ∧ (writtenDate day).year ≤ 99 then
        1900 + (writtenDate day).year else (writtenDate day).year := by
    rw [writtenDate]
    simp only
    split <;> split <;> omega
  have ordered := dayNumber_le_of_year_le later (dateOf day).month (dateOf day).day
  have same : dayNumber ⟨(dateOf day).year, (dateOf day).month, (dateOf day).day⟩ = day :=
    dayNumber_dateOf day
  rw [same] at ordered
  rw [dateUtc]
  simp only [writtenDate] at ordered ⊢
  omega

theorem tzOffsetMinutes_ge {instant : Int} (whole : instant % 60000 = 0) :
    -840 ≤ tzOffsetMinutes instant zone := by
  have bounds := zone.bounded instant
  have shows : 86400000 * zone.dayAt instant + zone.timeAt instant =
      instant + 60000 * zone.offset instant := by
    rw [Zone.dayAt, Zone.timeAt, Int.mul_ediv_add_emod, Zone.wall]
  have within : 0 ≤ zone.timeAt instant ∧ zone.timeAt instant < 86400000 := by
    rw [Zone.timeAt]
    omega
  have ordered := dateUtc_writtenDate_ge (zone.dayAt instant) (zone.timeAt instant / 3600000)
    (zone.timeAt instant / 60000 % 60) (zone.timeAt instant / 1000 % 60)
  rw [tzOffsetMinutes, formatToParts, roundMinutes]
  simp only [clamped_hour _ (by omega : zone.timeAt instant / 3600000 < 24)]
  omega

theorem BulkPlan.startDay_lt {year : Int} (early : plan.startDate.year < year) :
    plan.startDay < dayNumber ⟨year, 1, 1⟩ :=
  calc plan.startDay
    _ < dayNumber ⟨plan.startDate.year + 1, 1, 1⟩ :=
      lt_nextYear plan.month_within plan.day_within.2
    _ ≤ dayNumber ⟨year, 1, 1⟩ := dayNumber_le_of_year_le (by omega) 1 1

theorem early_startAt {day : Int} (within : dayNumber ⟨-1, 1, 1⟩ ≤ day ∧
    day < dayNumber ⟨1001, 1, 1⟩) (time : TimeOfDay) :
    wallTimeToUtcIso (writtenDate day) time zone < 978307200000 := by
  have first : -1 ≤ (dateOf day).year := le_year_iff.mpr within.1
  have last : ¬ 1001 ≤ (dateOf day).year := by
    rw [le_year_iff]
    omega
  rcases dateOf_within day with ⟨month, _, ends⟩
  have year : (if 0 ≤ (writtenDate day).year ∧ (writtenDate day).year ≤ 99 then
      1900 + (writtenDate day).year else (writtenDate day).year) ≤ 1999 := by
    rw [writtenDate]
    simp only
    split <;> split <;> omega
  have ordered := dayNumber_le_of_year_le year (dateOf day).month (dateOf day).day
  have before := @lt_nextYear 1999 _ _ month ends
  have millennium : dayNumber ⟨1999 + 1, 1, 1⟩ = 10957 := by decide
  have clock := time.ms_within
  rw [TimeOfDay.ms] at clock
  have wall : dateUtc (writtenDate day) time.hour time.minute 0 < 86400000 * 10957 ∧
      dateUtc (writtenDate day) time.hour time.minute 0 % 60000 = 0 := by
    rw [dateUtc]
    simp only [writtenDate] at ordered ⊢
    omega
  rw [wallTimeToUtcIso]
  simp only
  generalize dateUtc (writtenDate day) time.hour time.minute 0 = start at wall ⊢
  have offset := @tzOffsetMinutes_ge zone (start - tzOffsetMinutes start zone * 60000) (by omega)
  omega

theorem early_exact (sided : Sided zone west) (early : plan.startDate.year < 1000)
    (late : 978307200000 ≤ now) : PreviewExact plan zone now (plan.slots zone now) := by
  have start := plan.newYear_le_startDay plan.year_nonneg
  have ends := plan.startDay_lt early
  have weeks := plan.weeks_within
  rw [maxBulkWeeks] at weeks
  have years : dayNumber ⟨-1, 1, 1⟩ + 1 ≤ dayNumber ⟨0, 1, 1⟩ ∧
      dayNumber ⟨1000, 1, 1⟩ + 182 < dayNumber ⟨1001, 1, 1⟩ ∧
        dayNumber ⟨1001, 1, 1⟩ ≤ 0 := by decide
  have behind : 0 ≤ lag west ∧ lag west ≤ 1 := by cases west <;> decide
  have none_found : plan.slots zone now = [] := by
    rw [BulkPlan.slots, List.filterMap_eq_nil_iff]
    intro i within
    rw [List.mem_range] at within
    rw [Option.eq_none_iff_forall_ne_some]
    intro slot added
    rcases (slotOn_eq_some sided).mp added with ⟨_, built, future⟩
    have past := @early_startAt zone (plan.startDay + i - lag west) (by omega) plan.startTime
    rw [built] at future
    simp only at future
    omega
  rw [none_found]
  refine ⟨fun instant => ⟨fun listed => ?_, fun asked => ?_⟩, List.Pairwise.nil⟩
  · exact absurd listed List.not_mem_nil
  · rcases asked with ⟨future, within, _⟩
    have bounds := zone.bounded instant
    rw [Zone.dayAt, Zone.wall] at within
    omega

end Walk

/-- The preview is what is promised, whenever it is asked for, if and only if the walk meets the
weeks; before the year 1000 there is nothing left to meet. -/
theorem bulk_preview_exact_iff {zones : String -> Zone} (located : ∀ timezone,
      timezone ∈ timezones -> Sided (zones timezone) (timezone ∈ western))
    {input : BulkPreviewInput} (allowed : input.tz ∈ timezones) {plan : BulkPlan}
    (valid : checkBulkPreviewInput input = .ok plan) : (1000 ≤ plan.startDate.year ->
        ((∀ now, ∃ slots, bulkGeneratePreview zones now input = .ok slots ∧
            PreviewExact plan (zones input.tz) now slots) <->
          Covered plan (zones input.tz) (input.tz ∈ western))) ∧
      (plan.startDate.year < 1000 -> ∀ now, 978307200000 ≤ now ->
        ∃ slots, bulkGeneratePreview zones now input = .ok slots ∧
          PreviewExact plan (zones input.tz) now slots) := by
  have sided := located input.tz allowed
  have answer : ∀ now, bulkGeneratePreview zones now input =
      .ok (plan.slots (zones input.tz) now) := by
    intro now
    rw [bulkGeneratePreview, valid]
  refine ⟨fun era => ⟨fun always => ?_, fun covered now => ?_⟩, fun early now late => ?_⟩
  · refine covered_of_exact sided era fun now => ?_
    rcases always now with ⟨slots, answered, promised⟩
    rw [answer] at answered
    injection answered with answered
    rw [answered]
    exact promised
  · exact ⟨_, answer now, covered.exact sided era now⟩
  · exact ⟨_, answer now, early_exact sided early late⟩

private def turning (turn before after : Int)
    (bounded : (-840 ≤ before ∧ before ≤ 840) ∧ -840 ≤ after ∧ after ≤ 840) : Zone where
  offset instant := if instant < turn then before else after
  bounded := by
    intro instant
    split
    · exact bounded.1
    · exact bounded.2
  apart := by
    intro first second ordered changes again
    split at changes <;> split at changes <;> split at again <;> split at again <;> omega

/-- Half past one on the night in which Berlin turns its clocks at two: the first guess is behind
the turn, the second before it. -/
theorem wallTimeToUtcIso_shows_before_turn :
    let berlin := turning 1774746000000 60 120 (by decide)
    dateOf (berlin.dayAt (wallTimeToUtcIso ⟨2026, 3, 29⟩ ⟨1, 30, by decide, by decide⟩ berlin)) =
        ⟨2026, 3, 29⟩ ∧
      berlin.timeAt (wallTimeToUtcIso ⟨2026, 3, 29⟩ ⟨1, 30, by decide, by decide⟩ berlin) =
        (TimeOfDay.mk 1 30 (by decide) (by decide)).ms :=
  wallTimeToUtcIso_shows (by decide) ⟨1774744200000, by decide⟩

private def zonesOf (timezone : String) : Zone :=
  if timezone ∈ western then turning 0 (-300) (-300) (by decide)
  else turning 0 180 180 (by decide)

private def sundays (timezone : String) : BulkPreviewInput :=
  ⟨[.integer 0], "10:00", "2026-12-07", .integer 1, .integer 60, [], some timezone⟩

private def sundaysPlan : BulkPlan where
  weekdays := [0]
  startTime := ⟨10, 0, by decide, by decide⟩
  startDate := ⟨2026, 12, 7⟩
  weeks := 1
  skipDates := []
  year_nonneg := by decide
  month_within := by decide
  day_within := by decide
  weeks_within := by decide

private theorem zonesOf_located (timezone : String) :
    Sided (zonesOf timezone) (timezone ∈ western) := by
  intro instant
  by_cases west : timezone ∈ western
  · rw [zonesOf, if_pos west, turning]
    simp [west]
  · rw [zonesOf, if_neg west, turning]
    simp [west]

private theorem sundaysPlan_covered : Covered sundaysPlan (zonesOf "Europe/Moscow") false := by
  refine ⟨fun day _ _ _ => ?_, fun west => Bool.noConfusion west, fun west => Bool.noConfusion west⟩
  have shows : ∀ instant, (zonesOf "Europe/Moscow").wall instant = instant + 10800000 := by
    intro instant
    rw [Zone.wall, zonesOf, if_neg (by decide), turning]
    simp
  refine ⟨wallOf day sundaysPlan.startTime - 10800000, ?_, fun instant wall => ?_⟩
  · simp only [shows]
    omega
  · simp only [shows] at wall
    omega

/-- In Moscow the Sunday of the week is offered. -/
theorem bulk_preview_exact_in_moscow :
    ∃ slots, bulkGeneratePreview zonesOf 0 (sundays "Europe/Moscow") = .ok slots ∧
      PreviewExact sundaysPlan (zonesOf "Europe/Moscow") 0 slots :=
  ((@bulk_preview_exact_iff zonesOf (fun timezone _ => zonesOf_located timezone)
    (sundays "Europe/Moscow") (by decide) sundaysPlan (by decide +kernel)).1 (by decide)).mpr
      sundaysPlan_covered 0

/-- In New York the Sunday before the start date is offered, which nobody has asked for. -/
theorem preview_a_day_early :
    ∃ plan slots, checkBulkPreviewInput (sundays "America/New_York") = .ok plan ∧
      bulkGeneratePreview zonesOf 0 (sundays "America/New_York") = .ok slots ∧
        ¬ PreviewExact plan (zonesOf "America/New_York") 0 slots := by
  refine ⟨sundaysPlan, [⟨1796569200000, ⟨2026, 12, 6⟩, ⟨10, 0, by decide, by decide⟩⟩],
    by decide +kernel, by decide +kernel, fun promised => ?_⟩
  have meant := (promised.exactly 1796569200000).mp (by decide)
  exact absurd meant.2.1.1 (by decide +kernel)

end BulkPreview

end LevelChannel
