import Mathlib.Data.List.Sort
import LevelChannel.Payments.Orders

namespace LevelChannel

namespace Payments

/-!
# The event log of an order

Whatever happens to an order is written at the front of its log, and the log is cut to fifty
entries: so the first entry is the last event, which is what the emitter of status changes reads.
Not every writer keeps to that.  A new order is written with its events in the order in which they
happened, the consent first and the attempt to charge last, and the job that cancels stale orders
writes its event at the end and cuts nothing.
-/

/-- An order of the widget and one of a saved card, with the instant of the consent and that of the
attempt; and an order that another route inserts, whose log is left to its default. -/
inductive OrderCreation where
  | widget (acceptedAt : Option Nat)
  | oneClick (acceptedAt : Option Nat) (attemptAt : Nat)
  | inserted (status : OrderStatus)
  deriving DecidableEq

namespace OrderCreation

def status : OrderCreation -> OrderStatus
  | inserted status => status
  | _ => .pending

/-- `createCloudPaymentsOrder` -/
def orderEvents (acceptedAt : Option Nat) (now : Nat) : List OrderEvent :=
  acceptedAt.toList.map (fun at_ => ⟨.consentAccepted, at_, []⟩) ++ [⟨.created, now, []⟩]

/-- `chargeWithSavedCard` adds its attempt behind the others. -/
def events (now : Nat) : OrderCreation -> List OrderEvent
  | widget acceptedAt => orderEvents acceptedAt now
  | oneClick acceptedAt attemptAt => orderEvents acceptedAt now ++ [⟨.chargeAttempt, attemptAt, []⟩]
  | inserted _ => []

def Timed (now : Nat) : OrderCreation -> Prop
  | widget acceptedAt => ∀ at_, at_ ∈ acceptedAt -> at_ ≤ now
  | oneClick acceptedAt attemptAt => (∀ at_, at_ ∈ acceptedAt -> at_ ≤ now) ∧ now ≤ attemptAt
  | inserted _ => True

def doneAt (now : Nat) : OrderCreation -> Nat
  | oneClick _ attemptAt => attemptAt
  | _ => now

end OrderCreation

inductive LogStep where
  | paid (payload : EventPayload) (detected : Option DetectedMethod)
  | failed (payload : EventPayload)
  | cancelled (payload : EventPayload)
  | requiresThreeDs (transactionId : String)
  | threeDsError (message : String)
  | cancelStale (startedAt : Nat)
  deriving DecidableEq

def LogStep.updater : LogStep -> Option (OrderUpdate × EventPayload)
  | paid payload detected => some (.paid payload detected, payload)
  | failed payload => some (.failed payload, payload)
  | cancelled payload => some (.cancelled payload, payload)
  | requiresThreeDs transactionId =>
    some (.requiresThreeDs transactionId, [("transactionId", .text transactionId)])
  | threeDsError message => some (.threeDsError message, [("message", .text message)])
  | cancelStale _ => none

/-- The row of an order and everything that was ever recorded of it, the latest first. -/
structure OrderLog where
  row : CardOrder
  history : List OrderEvent
  clock : Nat
  deriving DecidableEq

namespace OrderLog

/-- The events of a creation are recorded by one statement, so those of one instant have no order
among them but the one they are written in. -/
def created (draft : CardOrder) (creation : OrderCreation) (now : Nat) : OrderLog where
  row := { draft with status := creation.status, events := creation.events now }
  history := (creation.events now).insertionSort fun first second => second.at_ ≤ first.at_
  clock := creation.doneAt now

/-- One writer's transaction. -/
def step (log : OrderLog) (now : Nat) (step : LogStep) : OrderLog :=
  match step.updater with
  | some (updater, payload) =>
    let order := mapRowToOrder log.row
    { row := toInsertValues (updater.update now order)
      history := ⟨updater.event order, now, payload⟩ :: log.history
      clock := now }
  | none =>
    match step with
    | .cancelStale startedAt =>
      if log.row.status = .pending then
        { row := cancelStale startedAt log.row
          history := ⟨.cancelled, startedAt,
            [("source", .text "system"), ("reason", .text "stale_pending_timeout")]⟩ :: log.history
          clock := now }
      else { log with clock := now }
    | _ => log

end OrderLog

def LogStep.Timed (log : OrderLog) (now : Nat) (step : LogStep) : Prop :=
  log.clock ≤ now ∧ ∀ startedAt, step = .cancelStale startedAt -> startedAt ≤ now

/-- Every run of an order whose creation and whose steps are of the kinds that are admitted. -/
inductive LogRun (begins : Nat -> OrderCreation -> Prop) (admits : OrderLog -> LogStep -> Prop) :
    OrderLog -> Prop where
  | create (draft : CardOrder) {creation : OrderCreation} {now : Nat}
      (timed : creation.Timed now) (begun : begins now creation) :
      LogRun begins admits (OrderLog.created draft creation now)
  | step {log : OrderLog} (run : LogRun begins admits log) {now : Nat} {step : LogStep}
      (timed : step.Timed log now) (admitted : admits log step) :
      LogRun begins admits (log.step now step)

/-! ## The newest event first -/

/-- The log is in order of time, the newest event first, it is short, what it lacks is older than
what it has, and its first entry is the event that was recorded last. -/
structure NewestFirst (log : OrderLog) : Prop where
  sorted : log.row.events.Pairwise fun newer older => older.at_ ≤ newer.at_
  short : log.row.events.length ≤ 50
  dropped : ∃ dropped, log.history = log.row.events ++ dropped ∧
    ∀ kept old, kept ∈ log.row.events -> old ∈ dropped -> old.at_ ≤ kept.at_
  latest : log.row.events.head? = log.history.head?

/-- The log is what the history has at its front, and the history is in order. -/
structure Front (log : OrderLog) : Prop where
  events_eq : log.row.events = log.history.take 50
  sorted : log.history.Pairwise fun newer older => older.at_ ≤ newer.at_
  past : ∀ event, event ∈ log.history -> event.at_ ≤ log.clock

theorem Front.newestFirst {log : OrderLog} (front : Front log) : NewestFirst log := by
  have parts : log.history = log.row.events ++ log.history.drop 50 := by
    rw [front.events_eq, List.take_append_drop]
  have sorted := front.sorted
  rw [parts, List.pairwise_append] at sorted
  refine ⟨sorted.1, ?_, ⟨_, parts, fun kept old inLog gone => sorted.2.2 kept inLog old gone⟩, ?_⟩
  · rw [front.events_eq]
    exact List.length_take_le 50 log.history
  · rw [front.events_eq, List.head?_take, if_neg (by decide)]

theorem LogStep.update_events {step : LogStep} {updater : OrderUpdate} {payload : EventPayload}
    (found : step.updater = some (updater, payload)) (now : Nat) (order : CardOrder) :
    (updater.update now order).events =
      (⟨updater.event order, now, payload⟩ :: order.events).take 50 := by
  cases step with
  | paid payload detected =>
    cases found
    simp only [OrderUpdate.paid]
    split <;> rfl
  | failed payload =>
    cases found
    simp only [OrderUpdate.failed]
    split
    · rfl
    · split <;> rfl
  | cancelled payload =>
    cases found
    simp only [OrderUpdate.cancelled]
    split
    · rfl
    · split
      · rfl
      · split <;> rfl
  | requiresThreeDs transactionId =>
    cases found
    rfl
  | threeDsError message =>
    cases found
    rfl
  | cancelStale startedAt => cases found

theorem take_cons_take (event : OrderEvent) (history : List OrderEvent) :
    (event :: history.take 50).take 50 = (event :: history).take 50 := by
  rw [List.take_succ_cons, List.take_succ_cons, List.take_take]
  rfl

theorem Front.record {log : OrderLog} (front : Front log) (type : OrderEventType)
    (payload : EventPayload) {row : CardOrder} {now : Nat} (later : log.clock ≤ now)
    (written : row.events = (⟨type, now, payload⟩ :: log.row.events).take 50) :
    Front ⟨row, ⟨type, now, payload⟩ :: log.history, now⟩ where
  events_eq := by
    dsimp only
    rw [written, front.events_eq, take_cons_take]
  sorted := List.pairwise_cons.mpr
    ⟨fun old recorded => (front.past old recorded).trans later, front.sorted⟩
  past := by
    intro other recorded
    rcases List.mem_cons.mp recorded with rfl | earlier
    · exact Nat.le_refl now
    · exact (front.past other earlier).trans later

def FindsNoEvents (log : OrderLog) : LogStep -> Prop
  | .cancelStale _ => log.row.status ≠ .pending ∨ log.row.events = []
  | _ => True

theorem Front.step {log : OrderLog} (front : Front log) {now : Nat} {step : LogStep}
    (timed : step.Timed log now) (admitted : FindsNoEvents log step) :
    Front (log.step now step) := by
  obtain ⟨later, stamped⟩ := timed
  cases found : step.updater with
  | some update =>
    obtain ⟨updater, payload⟩ := update
    simp only [OrderLog.step, found]
    exact front.record _ payload later
      (LogStep.update_events found now (mapRowToOrder log.row))
  | none =>
    cases step with
    | cancelStale startedAt =>
      simp only [OrderLog.step, found]
      split
      case isTrue pending =>
        rcases admitted with other | empty
        · exact absurd pending other
        · have noHistory : log.history = [] := by
            have none_ := front.events_eq
            rw [empty] at none_
            simpa using none_.symm
          refine ⟨?_, ?_, ?_⟩
          · simp [cancelStale, empty, noHistory]
          · simp [noHistory]
          · simpa [noHistory] using stamped startedAt rfl
      case isFalse =>
        exact ⟨front.events_eq, front.sorted,
          fun event recorded => (front.past event recorded).trans later⟩
    | _ => cases found

def WrittenInOrder (now : Nat) (creation : OrderCreation) : Prop :=
  (creation.events now).Pairwise fun first second => second.at_ ≤ first.at_

theorem OrderCreation.events_le {creation : OrderCreation} {now : Nat}
    (timed : creation.Timed now) :
    ∀ event, event ∈ creation.events now -> event.at_ ≤ creation.doneAt now := by
  have consents : ∀ acceptedAt : Option Nat, (∀ at_, at_ ∈ acceptedAt -> at_ ≤ now) ->
      ∀ event, event ∈ orderEvents acceptedAt now -> event.at_ ≤ now := by
    intro acceptedAt before event member
    rcases List.mem_append.mp member with consent | created
    · obtain ⟨at_, accepted, rfl⟩ := List.mem_map.mp consent
      exact before at_ (by simpa using accepted)
    · rw [List.mem_singleton.mp created]
  intro event member
  cases creation with
  | widget acceptedAt => exact consents acceptedAt timed event member
  | oneClick acceptedAt attemptAt =>
    rcases List.mem_append.mp member with ordered | attempt
    · exact (consents acceptedAt timed.1 event ordered).trans timed.2
    · rw [List.mem_singleton.mp attempt]
      exact Nat.le_refl attemptAt
  | inserted status => exact absurd member List.not_mem_nil

theorem OrderCreation.length_events (creation : OrderCreation) (now : Nat) :
    (creation.events now).length ≤ 3 := by
  cases creation with
  | widget acceptedAt => cases acceptedAt <;> simp [events, orderEvents]
  | oneClick acceptedAt attemptAt => cases acceptedAt <;> simp [events, orderEvents]
  | inserted status => simp [events]

theorem Front.created (draft : CardOrder) {creation : OrderCreation} {now : Nat}
    (timed : creation.Timed now) (inOrder : WrittenInOrder now creation) :
    Front (OrderLog.created draft creation now) := by
  have unsorted : (creation.events now).insertionSort (fun first second =>
      second.at_ ≤ first.at_) = creation.events now :=
    List.Pairwise.insertionSort_eq inOrder
  have short := creation.length_events now
  refine ⟨?_, ?_, ?_⟩
  · simp only [OrderLog.created, unsorted]
    exact (List.take_of_length_le (by omega)).symm
  · rw [OrderLog.created, unsorted]
    exact inOrder
  · rw [OrderLog.created, unsorted]
    exact OrderCreation.events_le timed

/-- In every run whose orders begin with events of one instant, and in which the job finds no log
to write behind, the log has the newest event first. -/
theorem newestFirst_of_run {log : OrderLog} (run : LogRun WrittenInOrder FindsNoEvents log) :
    NewestFirst log := by
  apply Front.newestFirst
  induction run with
  | create draft timed begun => exact .created draft timed begun
  | step _ timed admitted ih => exact ih.step timed admitted

def anOrder : CardOrder :=
  newCardOrder (.generated (.minted 0 0)) 0 350000 "learner@example.com" false []

/-- An order for a package, cancelled by the job and paid all the same. -/
theorem newestFirst_of_run_package :
    NewestFirst (((OrderLog.created anOrder (.inserted .pending) 1000).step 5000000
      (.cancelStale 4999999)).step 6000000 (.paid [] none)) :=
  have begun : LogRun WrittenInOrder FindsNoEvents
      (OrderLog.created anOrder (.inserted .pending) 1000) :=
    .create anOrder trivial .nil
  have stale : LogRun WrittenInOrder FindsNoEvents
      ((OrderLog.created anOrder (.inserted .pending) 1000).step 5000000 (.cancelStale 4999999)) :=
    .step begun ⟨by decide, by rintro startedAt ⟨⟩; decide⟩ (.inr rfl)
  newestFirst_of_run (.step stale ⟨by decide, fun _ no => nomatch no⟩ trivial)

/-- An order of the widget is written with the consent before its creation, and when it is stale
the cancellation goes behind both. -/
theorem not_newestFirst_stale :
    ¬∀ log, LogRun (fun _ _ => True) (fun _ _ => True) log -> NewestFirst log := by
  intro always
  have run : LogRun (fun _ _ => True) (fun _ _ => True)
      ((OrderLog.created anOrder (.widget (some 990)) 1000).step 5000000
        (.cancelStale 4999999)) :=
    .step (.create anOrder (by rintro at_ ⟨⟩; decide) trivial)
      ⟨by decide, by rintro startedAt ⟨⟩; decide⟩ trivial
  have latest := (always _ run).latest
  revert latest
  decide

end Payments

end LevelChannel
