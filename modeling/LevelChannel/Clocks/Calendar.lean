import Mathlib.Order.Basic

namespace LevelChannel

namespace Clocks

/-!
# The calendar

Days are counted from 1 January 1970, and dates are those of the Gregorian calendar, extended to
all years.  In the arithmetic years begin in March, so that a leap day is the last of its year.
-/

structure Date where
  year : Int
  month : Int
  day : Int
  deriving DecidableEq, Repr

def daysBeforeMarch (year : Int) : Int :=
  365 * year + year / 4 - year / 100 + year / 400

def daysBeforeMonth (month : Int) : Int :=
  (153 * month + 2) / 5

def dayNumber (date : Date) : Int :=
  if date.month ≤ 2 then
    daysBeforeMarch (date.year - 1) + daysBeforeMonth (date.month + 9) + date.day - 719469
  else
    daysBeforeMarch date.year + daysBeforeMonth (date.month - 3) + date.day - 719469

def dateInMarchYear (year dayOfYear : Int) : Date :=
  let month := (5 * dayOfYear + 2) / 153
  if month < 10 then ⟨year, month + 3, dayOfYear - daysBeforeMonth month + 1⟩
  else ⟨year + 1, month - 9, dayOfYear - daysBeforeMonth month + 1⟩

def dateOf (day : Int) : Date :=
  let days := day + 719468
  let inCycle := days % 146097
  -- the last century of four hundred years has a day more, and so has the last year of four
  let century := min (inCycle / 36524) 3
  let inCentury := inCycle - 36524 * century
  let inFour := inCentury % 1461
  let single := min (inFour / 365) 3
  dateInMarchYear (400 * (days / 146097) + 100 * century + 4 * (inCentury / 1461) + single)
    (inFour - 365 * single)

example : dayNumber ⟨1970, 1, 1⟩ = 0 ∧ dayNumber ⟨2024, 2, 30⟩ = dayNumber ⟨2024, 3, 1⟩ := by
  decide

def weekday (day : Int) : Int :=
  (day + 4) % 7

theorem daysBeforeMarch_parts {cycle century four single : Int}
    (century_le : 0 ≤ century ∧ century ≤ 3) (four_le : 0 ≤ four ∧ four ≤ 24)
    (single_le : 0 ≤ single ∧ single ≤ 3) :
    daysBeforeMarch (400 * cycle + 100 * century + 4 * four + single) =
      146097 * cycle + 36524 * century + 1461 * four + 365 * single := by
  rw [daysBeforeMarch]
  omega

theorem dayNumber_dateInMarchYear {year dayOfYear : Int}
    (within : 0 ≤ dayOfYear ∧ dayOfYear ≤ 365) :
    dayNumber (dateInMarchYear year dayOfYear) = daysBeforeMarch year + dayOfYear - 719468 := by
  rw [dateInMarchYear]
  split
  · next early =>
    have later : ¬ ((5 * dayOfYear + 2) / 153 + 3 ≤ 2) := by omega
    rw [dayNumber, if_neg later]
    simp only [Int.add_sub_cancel]
    omega
  · next late =>
    have early : (5 * dayOfYear + 2) / 153 - 9 ≤ 2 := by omega
    rw [dayNumber, if_pos early]
    simp only [Int.add_sub_cancel, Int.sub_add_cancel]
    omega

theorem dayNumber_dateOf (day : Int) : dayNumber (dateOf day) = day := by
  have rest : 0 ≤ (day + 719468) % 146097 ∧ (day + 719468) % 146097 < 146097 := by omega
  rw [dateOf, dayNumber_dateInMarchYear (by omega), daysBeforeMarch_parts (by omega) (by omega)
    (by omega)]
  omega

theorem dateOf_within (day : Int) : (1 ≤ (dateOf day).month ∧ (dateOf day).month ≤ 12) ∧
      1 ≤ (dateOf day).day ∧ (dateOf day).day ≤ 31 := by
  have rest : 0 ≤ (day + 719468) % 146097 ∧ (day + 719468) % 146097 < 146097 := by omega
  rw [dateOf, dateInMarchYear]
  simp only [daysBeforeMonth]
  split
  · constructor <;> simp only <;> omega
  · constructor <;> simp only <;> omega

theorem dayNumber_le_of_year_le {first second : Int} (ordered : first ≤ second) (month day : Int) :
    dayNumber ⟨first, month, day⟩ ≤ dayNumber ⟨second, month, day⟩ := by
  simp only [dayNumber, daysBeforeMarch]
  split <;> omega

theorem newYear_le {year month day : Int} (within : 1 ≤ month ∧ month ≤ 12) (first : 1 ≤ day) :
    dayNumber ⟨year, 1, 1⟩ ≤ dayNumber ⟨year, month, day⟩ := by
  simp only [dayNumber, daysBeforeMarch, daysBeforeMonth]
  split <;> omega

theorem lt_nextYear {year month day : Int} (within : 1 ≤ month ∧ month ≤ 12) (last : day ≤ 31) :
    dayNumber ⟨year, month, day⟩ < dayNumber ⟨year + 1, 1, 1⟩ := by
  simp only [dayNumber, daysBeforeMarch, daysBeforeMonth]
  split <;> omega

theorem le_year_iff {year day : Int} :
    year ≤ (dateOf day).year <-> dayNumber ⟨year, 1, 1⟩ ≤ day := by
  rcases dateOf_within day with ⟨month, first, last⟩
  have same : dayNumber ⟨(dateOf day).year, (dateOf day).month, (dateOf day).day⟩ = day :=
    dayNumber_dateOf day
  constructor
  · intro ordered
    calc dayNumber ⟨year, 1, 1⟩
      _ ≤ dayNumber ⟨(dateOf day).year, 1, 1⟩ := dayNumber_le_of_year_le ordered 1 1
      _ ≤ dayNumber ⟨(dateOf day).year, (dateOf day).month, (dateOf day).day⟩ :=
        newYear_le month first
      _ = day := same
  · intro ordered
    by_contra early
    have next : dayNumber ⟨(dateOf day).year + 1, 1, 1⟩ ≤ dayNumber ⟨year, 1, 1⟩ :=
      dayNumber_le_of_year_le (by omega) 1 1
    have before := @lt_nextYear (dateOf day).year _ _ month last
    omega

end Clocks

end LevelChannel
