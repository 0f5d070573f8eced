import Mathlib.Order.SuccPred.Basic
import Mathlib.Data.Int.SuccPred
import LevelChannel.Clocks.Calendar

namespace LevelChannel

namespace Clocks

/-!
# Time zones

A zone tells how far its clocks are ahead of universal time at an instant.  The offset changes
now and then, at turns that lie two days apart.  An instant of a given wall time is found by
guessing the offset twice: the first guess can be on the wrong side of a turn, but not both.

Instants and wall times are in milliseconds, a wall time being the instant at which clocks in
universal time show it; offsets are in minutes.
-/

structure Zone where
  offset : Int -> Int
  bounded : ∀ instant, -840 ≤ offset instant ∧ offset instant ≤ 840
  apart : ∀ first second, first < second -> offset (first - 1) ≠ offset first ->
    offset (second - 1) ≠ offset second -> first + 172800000 ≤ second

namespace Zone

def universal : Zone where
  offset := fun _ => 0
  bounded := fun _ => by decide
  apart := fun _ _ _ turns => absurd rfl turns

variable (zone : Zone)

def wall (instant : Int) : Int :=
  instant + 60000 * zone.offset instant

def dayAt (instant : Int) : Int :=
  zone.wall instant / 86400000

def timeAt (instant : Int) : Int :=
  zone.wall instant % 86400000

def guess (wall instant : Int) : Int :=
  wall - 60000 * zone.offset instant

def secondGuess (wall : Int) : Int :=
  zone.guess wall (zone.guess wall wall)

/-- The offset by which a timestamp without zone is cast: the one after a turn, unless it has not
come into force by then. -/
def castOffset (wall : Int) : Int :=
  if zone.offset (zone.guess wall (wall + 86400000)) = zone.offset (wall + 86400000) then
    zone.offset (wall + 86400000)
  else zone.offset (wall - 86400000)

def cast (wall : Int) : Int :=
  wall - 60000 * zone.castOffset wall

variable {zone}

theorem offset_eq_of_quiet {first last : Int} (ordered : first ≤ last)
    (quiet : ∀ instant, first < instant -> instant ≤ last ->
      zone.offset (instant - 1) = zone.offset instant) : zone.offset first = zone.offset last := by
  induction last, ordered using Int.leInduction with
  | base => rfl
  | succ last ordered extend =>
    have before : zone.offset first = zone.offset last :=
      extend fun instant after upTo => quiet instant after (by omega)
    have step : zone.offset (last + 1 - 1) = zone.offset (last + 1) :=
      quiet (last + 1) (by omega) (by omega)
    rw [Int.add_sub_cancel] at step
    exact before.trans step

theorem one_turn {first last : Int} (short : last < first + 172800000) :
    ∃ turn, ∀ instant, first ≤ instant -> instant ≤ last ->
      (instant < turn -> zone.offset instant = zone.offset first) ∧
        (turn ≤ instant -> zone.offset instant = zone.offset last) := by
  by_cases turns : ∃ turn, (first < turn ∧ turn ≤ last) ∧
      zone.offset (turn - 1) ≠ zone.offset turn
  · rcases turns with ⟨turn, within, changes⟩
    have only : ∀ other, first < other -> other ≤ last -> other ≠ turn ->
        zone.offset (other - 1) = zone.offset other := by
      intro other after upTo different
      by_contra also
      rcases Int.lt_or_gt_of_ne different with earlier | later
      · have := zone.apart other turn earlier also changes
        omega
      · have := zone.apart turn other later changes also
        omega
    refine ⟨turn, fun instant after upTo => ⟨fun before => ?_, fun since => ?_⟩⟩
    · refine (offset_eq_of_quiet after fun other past still => ?_).symm
      exact only other past (by omega) (by omega)
    · refine offset_eq_of_quiet upTo fun other past still => ?_
      exact only other (by omega) still (by omega)
  · have quiet : ∀ other, first < other -> other ≤ last ->
        zone.offset (other - 1) = zone.offset other := by
      intro other after upTo
      by_contra changes
      exact turns ⟨other, ⟨after, upTo⟩, changes⟩
    refine ⟨last + 1, fun instant after upTo => ⟨fun _ => ?_, fun since => by omega⟩⟩
    refine (offset_eq_of_quiet after fun other past still => ?_).symm
    exact quiet other past (by omega)

theorem wall_secondGuess {wall : Int} (shown : ∃ instant, zone.wall instant = wall) :
    zone.wall (zone.secondGuess wall) = wall := by
  rcases shown with ⟨instant, shows⟩
  rcases @one_turn zone (wall - 50400000) (wall + 50400000) (by omega) with ⟨turn, sides⟩
  have bounds := zone.bounded
  rw [Zone.wall] at shows
  rw [Zone.wall, secondGuess, guess, guess]
  -- whichever side of the turn the first guess is on, the wall time is shown there or else on
  -- the side that the second one takes
  have here := sides instant (by have := bounds instant; omega) (by have := bounds instant; omega)
  have start := sides wall (by omega) (by omega)
  have near := bounds wall
  have first := sides (wall - 60000 * zone.offset wall) (by omega) (by omega)
  have close := bounds (wall - 60000 * zone.offset wall)
  have second := sides (wall - 60000 * zone.offset (wall - 60000 * zone.offset wall)) (by omega)
    (by omega)
  omega

theorem wall_secondGuess_near {low high : Int}
    (within : ∀ instant, low ≤ zone.offset instant ∧ zone.offset instant ≤ high) (wall : Int) :
    wall - 60000 * (high - low) ≤ zone.wall (zone.secondGuess wall) ∧
      zone.wall (zone.secondGuess wall) ≤ wall + 60000 * (high - low) := by
  rw [Zone.wall, secondGuess, guess]
  have first := within (zone.guess wall wall)
  have second := within (wall - 60000 * zone.offset (zone.guess wall wall))
  omega

end Zone

end Clocks

end LevelChannel
