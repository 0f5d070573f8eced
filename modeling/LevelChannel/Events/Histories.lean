import Mathlib.Data.List.Basic

namespace LevelChannel

namespace Events

/-!
# Histories of a machine

A machine that takes every event, and what holds of each event in the state it comes to.
-/

variable {State Event : Type} (next : State -> Event -> State)

def after (state : State) (events : List Event) : State :=
  events.foldl next state

@[simp] theorem after_nil (state : State) : after next state [] = state := rfl

@[simp] theorem after_cons (state : State) (event : Event) (events : List Event) :
    after next state (event :: events) = after next (next state event) events := rfl

theorem after_append (state : State) (first second : List Event) :
    after next state (first ++ second) = after next (after next state first) second :=
  List.foldl_append

def Throughout (holds : State -> Event -> Prop) : State -> List Event -> Prop
  | _, [] => True
  | state, event :: events => holds state event ∧ Throughout holds (next state event) events

instance decidableThroughout {holds : State -> Event -> Prop}
    [∀ state event, Decidable (holds state event)] (state : State) (events : List Event) :
    Decidable (Throughout next holds state events) :=
  match events with
  | [] => isTrue trivial
  | event :: events =>
    have : Decidable (Throughout next holds (next state event) events) :=
      decidableThroughout (next state event) events
    inferInstanceAs (Decidable (holds state event ∧ Throughout next holds _ events))

namespace Throughout

variable {next} {holds : State -> Event -> Prop} {state : State}

theorem append_iff {first second : List Event} : Throughout next holds state (first ++ second) <->
      Throughout next holds state first ∧
        Throughout next holds (after next state first) second := by
  induction first generalizing state with
  | nil => simp [Throughout]
  | cons event events inductionHypothesis =>
    exact (and_congr_right fun _ => inductionHypothesis).trans and_assoc.symm

theorem keeps {Good : State -> Prop} {events : List Event}
    (throughout : Throughout next holds state events) (good : Good state)
    (kept : ∀ before event, Good before -> holds before event ->
      Good (next before event)) : Good (after next state events) := by
  induction events generalizing state with
  | nil => exact good
  | cons event events inductionHypothesis =>
    exact inductionHypothesis throughout.2 (kept state event good throughout.1)

theorem imp {also : State -> Event -> Prop} {events : List Event}
    (throughout : Throughout next holds state events)
    (weaker : ∀ state event, holds state event -> also state event) :
    Throughout next also state events := by
  induction events generalizing state with
  | nil => trivial
  | cons event events inductionHypothesis =>
    exact ⟨weaker state event throughout.1, inductionHypothesis throughout.2⟩

theorem and {also : State -> Event -> Prop} {events : List Event}
    (first : Throughout next holds state events) (second : Throughout next also state events) :
    Throughout next (fun state event => holds state event ∧ also state event) state events := by
  induction events generalizing state with
  | nil => trivial
  | cons event events inductionHypothesis =>
    exact ⟨⟨first.1, second.1⟩, inductionHypothesis first.2 second.2⟩

theorem exists_of_not {events : List Event} (fails : ¬Throughout next holds state events) :
    ∃ before event rest, events = before ++ event :: rest ∧
      ¬holds (after next state before) event := by
  induction events generalizing state with
  | nil => exact absurd trivial fails
  | cons event events inductionHypothesis =>
    by_cases here : holds state event
    · rcases inductionHypothesis fun rest => fails ⟨here, rest⟩ with
        ⟨before, other, rest, rfl, found⟩
      exact ⟨event :: before, other, rest, rfl, found⟩
    · exact ⟨[], event, events, rfl, here⟩

end Throughout

end Events

end LevelChannel
