import Mathlib.Data.List.Basic

namespace LevelChannel

namespace Events

/-!
# Runs of a machine

A machine takes events, where they are possible.  What holds of a run is proved from what
each event keeps; that a run exists is shown by playing its events.
-/

variable {State Event : Type} {step : State -> Event -> Option State}
  {fine : State -> Event -> State -> Prop}

inductive Runs (step : State -> Event -> Option State) (fine : State -> Event -> State -> Prop) :
    State -> State -> Prop
  | refl (first : State) : Runs step fine first first
  | step {first middle last : State} (event : Event) : Runs step fine first middle ->
      step middle event = some last -> fine middle event last -> Runs step fine first last

theorem Runs.keeps {Good : State -> Prop} {first last : State}
    (runs : Runs step fine first last) (good : Good first)
    (kept : ∀ before event after, Good before -> step before event = some after ->
      fine before event after -> Good after) : Good last := by
  induction runs with
  | refl => exact good
  | step event _ stepped met before => exact kept _ event _ before stepped met

def play (step : State -> Event -> Option State) (check : State -> Event -> State -> Bool)
    (state : State) : List Event -> Option State
  | [] => some state
  | event :: events => (step state event).bind fun after =>
    if check state event after then play step check after events else none

theorem runs_of_play {check : State -> Event -> State -> Bool}
    (sound : ∀ state event after, check state event after = true -> fine state event after)
    {events : List Event} {first middle last : State} (before : Runs step fine first middle)
    (played : play step check middle events = some last) : Runs step fine first last := by
  induction events generalizing middle with
  | nil =>
    injection played with played
    subst played
    exact before
  | cons event events extend =>
    rcases Option.bind_eq_some_iff.mp played with ⟨after, stepped, rest⟩
    split at rest
    · next passed =>
      exact extend (before.step event stepped (sound middle event after passed)) rest
    · cases rest

theorem exists_of_play (step : State -> Event -> Option State)
    {check : State -> Event -> State -> Bool}
    (sound : ∀ state event after, check state event after = true -> fine state event after)
    (first : State) (events : List Event) (fact : State -> Bool)
    (played : (play step check first events).any fact = true) :
    ∃ last, Runs step fine first last ∧ fact last = true := by
  rcases (Option.any_eq_true _ _).mp played with ⟨last, run, holds⟩
  exact ⟨last, runs_of_play sound (Runs.refl first) run, holds⟩

theorem mem_of_lookup {Work : Type} {entries : List (Nat × Work)} {number : Nat} {work : Work}
    (found : entries.lookup number = some work) : (number, work) ∈ entries := by
  rcases List.lookup_eq_some_iff.mp found with ⟨before, after, rfl, -⟩
  exact List.mem_append_right before List.mem_cons_self

end Events

end LevelChannel
