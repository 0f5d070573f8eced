import LevelChannel.Lessons.Gates
import LevelChannel.Scheduling.BulkPreview

namespace LevelChannel

open Clocks

/-!
# Starts on the clocks of Moscow

The gate for the start of a lesson asks the runtime what the clocks of Moscow show.  Here the
clocks are any zone, and Moscow time is what the source takes it for: three hours ahead of
universal time.
-/

namespace MoscowStarts

open BulkPreview

def mskOffset : Int :=
  180

def threeHoursAhead : Zone where
  offset := fun _ => mskOffset
  bounded := fun _ => by decide
  apart := fun _ _ _ turns => absurd rfl turns

/-- `validateSlotStartMsk`, by the clocks of a zone. -/
def validateSlotStartMsk (moscow : Zone) (startMs : Int) : Option SlotStartError :=
  let parts := formatToParts moscow startMs
  let hour := if parts.hour = 24 then 0 else parts.hour
  if hour < 6 ∨ 22 < hour ∨ hour = 22 ∧ 0 < parts.minute then
    some ⟨"slot/start_out_of_band", "Slot start must be 06:00–22:00 MSK."⟩
  else if parts.second ≠ 0 then
    some ⟨"slot/start_not_30min_aligned", "Slot start must have zero seconds."⟩
  else none

theorem timeAt_within (zone : Zone) (instant : Int) :
    0 ≤ zone.timeAt instant ∧ zone.timeAt instant < 86400000 := by
  rw [Zone.timeAt]
  omega

theorem validateSlotStartMsk_eq_none {moscow : Zone} {startMs : Int} :
    validateSlotStartMsk moscow startMs = none <->
      21600000 ≤ moscow.timeAt startMs ∧ moscow.timeAt startMs < 79260000 ∧
        moscow.timeAt startMs / 1000 % 60 = 0 := by
  have within := timeAt_within moscow startMs
  rw [validateSlotStartMsk, formatToParts]
  simp only [clamped_hour _ (by omega : moscow.timeAt startMs / 3600000 < 24)]
  split
  · refine iff_of_false (by simp) ?_
    omega
  · split
    · refine iff_of_false (by simp) ?_
      omega
    · refine iff_of_true rfl ?_
      omega

theorem validateSlotStartMsk_of_offset {moscow : Zone} {startMs : Nat}
    (standard : moscow.offset startMs = mskOffset) : validateSlotStartMsk moscow startMs = none <->
      LevelChannel.validateSlotStartMsk startMs = none := by
  have shown : moscow.timeAt startMs = mskTime startMs := by
    rw [Zone.timeAt, Zone.wall, standard, mskTime, mskDay, mskOffset]
    omega
  rw [validateSlotStartMsk_eq_none, LevelChannel.validateSlotStartMsk_eq_none, shown]
  omega

end MoscowStarts

end LevelChannel
