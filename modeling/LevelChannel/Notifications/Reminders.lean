import Mathlib.Data.List.Induction
import Mathlib.Data.List.Nodup
import Mathlib.Data.List.Sort
import LevelChannel.Events.Histories

namespace LevelChannel

open Events

namespace Reminders

/-!
# Reminders of a lesson

A job that runs every minute reminds learners of lessons that begin after a window, by
e-mail, by Telegram and by push.  Of each slot and channel it keeps one row, which it writes
before it sends and which keeps it from ever sending again.

The rows are also written where nothing is sent.  While Telegram is not active and another
channel is, learners who asked for it lose their reminder; and slots without a row, of
learners who did not ask, fill the query that those with one are taken from.
-/

/-! ## Tables -/

inductive Channel where
  | email
  | telegram
  | push
  deriving DecidableEq, Repr

inductive SkippedReason where
  | slotNoLongerBooked
  | emailMissing
  | pastSendBy
  | sendFailed
  | telegramHelperNotShipped
  | noPushSubscription
  deriving DecidableEq, Repr

inductive Status where
  | claimed
  | sent
  | skipped (reason : SkippedReason)
  deriving DecidableEq, Repr

def Status.isAttempted : Status -> Bool
  | sent | skipped .sendFailed => true
  | _ => false

/-- The unique key `(slot_id, channel)`. -/
structure DispatchKey where
  slotId : Nat
  channel : Channel
  deriving DecidableEq, Repr

/-- `learner_reminder_dispatches`, and the keys of all sends that were attempted. -/
structure Dispatches where
  row : DispatchKey -> Option Status
  sends : List DispatchKey

namespace Dispatches

def empty : Dispatches where
  row := fun _ => none
  sends := []

def put (dispatches : Dispatches) (key : DispatchKey) (status : Status) : Dispatches :=
  { dispatches with
    row := fun other => if other = key then some status else dispatches.row other }

def send (dispatches : Dispatches) (key : DispatchKey) : Dispatches :=
  { dispatches with sends := key :: dispatches.sends }

variable (dispatches : Dispatches) (key : DispatchKey) (status : Status)

@[simp] theorem put_row_self : (dispatches.put key status).row key = some status :=
  if_pos rfl

@[simp] theorem put_row_of_ne {other : DispatchKey} (different : other ≠ key) :
    (dispatches.put key status).row other = dispatches.row other :=
  if_neg different

@[simp] theorem put_sends : (dispatches.put key status).sends = dispatches.sends := rfl

@[simp] theorem send_row : (dispatches.send key).row = dispatches.row := rfl

@[simp] theorem send_sends : (dispatches.send key).sends = key :: dispatches.sends := rfl

end Dispatches

/-- A slot with its learner, as `readDueSlots` and the gate join them; subscriptions are
those without an `unsubscribed_at`. -/
structure Slot where
  id : Nat
  booked : Bool
  startAt : Nat
  email : Option String
  disabled : Bool
  scheduledPurge : Bool
  purged : Bool
  learnerTelegramEnabled : Bool
  learnerTelegramChatId : Option String
  pushSubscriptions : Nat
  deriving DecidableEq, Repr

def Slot.accountOpen (slot : Slot) : Bool :=
  !slot.disabled && !slot.scheduledPurge && !slot.purged

/-! ## A tick -/

/-- Settings, credentials and what a tick finds: instants are in milliseconds, and a slot has
one row.  The schema of the settings has a least window. -/
structure Tick where
  now : Nat
  windowMinutes : Nat
  window_least : 5 ≤ windowMinutes
  rateLimitPerTick : Nat
  emailEnabled : Bool
  telegramHelperShipped : Bool
  telegramMasterSwitch : Bool
  telegramTokenPresent : Bool
  pushMasterSwitch : Bool
  vapidKeysPresent : Bool
  slots : List Slot
  distinct : (slots.map Slot.id).Nodup
  accepts : DispatchKey -> Bool

def slackMs : Nat := 30 * 1000

namespace Tick

variable (tick : Tick)

def telegramChannelActive : Bool :=
  tick.telegramHelperShipped && tick.telegramMasterSwitch && tick.telegramTokenPresent

def pushChannelActive : Bool :=
  tick.pushMasterSwitch && tick.vapidKeysPresent

def active : Channel -> Bool
  | .email => tick.emailEnabled
  | .telegram => tick.telegramChannelActive
  | .push => tick.pushChannelActive

def windowMs : Nat := tick.windowMinutes * 60 * 1000

/-- The slots of the query that have no row of the channel yet, the first to begin first,
without the limit. -/
def dueSlots (dispatches : Dispatches) (channel : Channel) : List Slot :=
  (tick.slots.filter fun slot =>
    slot.booked && tick.now < slot.startAt &&
      slot.startAt ≤ tick.now + tick.windowMs + slackMs && slot.accountOpen &&
      (dispatches.row ⟨slot.id, channel⟩).isNone).insertionSort
    fun first second => first.startAt ≤ second.startAt

def readDueSlots (dispatches : Dispatches) (channel : Channel) : List Slot :=
  (tick.dueSlots dispatches channel).take (2 * tick.rateLimitPerTick)

def hasAddress (slot : Slot) : Bool :=
  slot.email.any fun email =>
    !email.isEmpty && !"@example.invalid".toList.isSuffixOf email.toList

def reFetchAndGate (slotId : Nat) : Option SkippedReason :=
  match tick.slots.find? fun slot => slot.id = slotId with
  | none => some .slotNoLongerBooked
  | some slot =>
    if !slot.booked then some .slotNoLongerBooked
    else if slot.startAt + slackMs < tick.now + tick.windowMs then some .pastSendBy
    else if !slot.accountOpen then some .slotNoLongerBooked
    else if !hasAddress slot then some .emailMissing
    else none

end Tick

def optedIn : Channel -> Slot -> Bool
  | .telegram, slot =>
    slot.learnerTelegramEnabled && slot.learnerTelegramChatId.any fun chatId => !chatId.isEmpty
  | _, _ => true

def skippedAtGate : Channel -> SkippedReason -> SkippedReason
  | .email, reason => reason
  | _, .emailMissing => .slotNoLongerBooked
  | _, reason => reason

def reachable : Channel -> Slot -> Bool
  | .push, slot => slot.pushSubscriptions ≠ 0
  | _, _ => true

/-- The table and what is left of `sendBudget`. -/
structure Sending where
  dispatches : Dispatches
  budget : Nat

namespace Tick

variable (tick : Tick) (channel : Channel)

def remind (sending : Sending) (slot : Slot) : Sending :=
  let key : DispatchKey := ⟨slot.id, channel⟩
  let finalize (status : Status) : Dispatches :=
    (sending.dispatches.put key .claimed).put key status
  if !optedIn channel slot || (sending.dispatches.row key).isSome then sending
  else
    match tick.reFetchAndGate slot.id with
    | some reason => { sending with
        dispatches := finalize (.skipped (skippedAtGate channel reason)) }
    | none =>
      if sending.budget = 0 then
        { sending with dispatches := finalize (.skipped .pastSendBy) }
      else if !reachable channel slot then
        ⟨finalize (.skipped .noPushSubscription), sending.budget - 1⟩
      else
        ⟨(finalize (if tick.accepts key then .sent else .skipped .sendFailed)).send key,
          sending.budget - 1⟩

def burnTelegram (sending : Sending) (slot : Slot) : Sending :=
  let key : DispatchKey := ⟨slot.id, .telegram⟩
  if !optedIn .telegram slot || (sending.dispatches.row key).isSome then sending
  else
    { sending with
      dispatches := (sending.dispatches.put key .claimed).put key
        (.skipped .telegramHelperNotShipped) }

def runChannel (sending : Sending) : Sending :=
  let due := tick.readDueSlots sending.dispatches channel
  if tick.active channel then due.foldl (tick.remind channel) sending
  else if channel = .telegram then due.foldl burnTelegram sending
  else sending

/-- `tick` -/
def run (dispatches : Dispatches) : Dispatches :=
  if !tick.active .email && !tick.active .telegram && !tick.active .push then dispatches
  else
    let sending : Sending := ⟨dispatches, tick.rateLimitPerTick⟩
    let afterEmail := tick.runChannel .email sending
    let afterTelegram := tick.runChannel .telegram afterEmail
    (tick.runChannel .push afterTelegram).dispatches

end Tick

/-! ## What a due slot changes -/

def Dispatches.view (dispatches : Dispatches) (key : DispatchKey) : Option Status × Nat :=
  (dispatches.row key, dispatches.sends.count key)

@[simp] theorem Dispatches.view_put_of_ne (dispatches : Dispatches) {key other : DispatchKey}
    (status : Status) (different : other ≠ key) :
    (dispatches.put key status).view other = dispatches.view other := by
  rw [view, put_row_of_ne _ _ _ different, put_sends, view]

@[simp] theorem Dispatches.view_send_of_ne (dispatches : Dispatches) {key other : DispatchKey}
    (different : other ≠ key) : (dispatches.send key).view other = dispatches.view other := by
  rw [view, send_row, send_sends, List.count_cons_of_ne (Ne.symm different), view]

namespace Tick

variable (tick : Tick) (channel : Channel) {sending : Sending} {slot : Slot} {key : DispatchKey}

theorem remind_view_of_ne (different : key ≠ ⟨slot.id, channel⟩) :
    (tick.remind channel sending slot).dispatches.view key = sending.dispatches.view key := by
  unfold remind
  cases tick.reFetchAndGate slot.id <;> dsimp only <;> split_ifs <;> simp [different]

theorem burnTelegram_view_of_ne (different : key ≠ ⟨slot.id, .telegram⟩) :
    (burnTelegram sending slot).dispatches.view key = sending.dispatches.view key := by
  simp only [burnTelegram]
  split_ifs
  · rfl
  · simp [different]

theorem remind_of_closed (closed : optedIn channel slot = false ∨
      (sending.dispatches.row ⟨slot.id, channel⟩).isSome = true) :
    tick.remind channel sending slot = sending := by
  rw [remind, if_pos (by simpa using closed)]

def takesBudget (slot : Slot) : Bool :=
  optedIn channel slot && (tick.reFetchAndGate slot.id).isNone

theorem remind_budget (open_ : sending.dispatches.row ⟨slot.id, channel⟩ = none) :
    (tick.remind channel sending slot).budget =
      sending.budget - if tick.takesBudget channel slot then 1 else 0 := by
  cases opted : optedIn channel slot with
  | false => rw [tick.remind_of_closed channel (.inl opted), takesBudget, opted]; rfl
  | true =>
    simp only [remind, takesBudget, opted, open_, Bool.not_true, Option.isSome_none, Bool.or_self,
      Bool.false_eq_true, if_false, Bool.true_and]
    cases gate : tick.reFetchAndGate slot.id with
    | some reason => rfl
    | none =>
      rw [Option.isNone_none, if_pos rfl]
      split_ifs with spent <;> simp [spent]

theorem skippedAtGate_not_attempted {slotId : Nat} {reason : SkippedReason}
    (gate : tick.reFetchAndGate slotId = some reason) :
    (Status.skipped (skippedAtGate channel reason)).isAttempted = false := by
  have known : reason ≠ .sendFailed := by
    rintro rfl
    unfold reFetchAndGate at gate
    split at gate
    · cases gate
    · split_ifs at gate <;> cases gate
  cases channel <;> cases reason <;> first | rfl | exact absurd rfl known

theorem remind_of_open (opted : optedIn channel slot = true)
    (open_ : sending.dispatches.row ⟨slot.id, channel⟩ = none) : ∃ status,
      (tick.remind channel sending slot).dispatches.row ⟨slot.id, channel⟩ = some status ∧
      (status.isAttempted = true <-> tick.reFetchAndGate slot.id = none ∧ sending.budget ≠ 0 ∧
        reachable channel slot = true) ∧
      (tick.remind channel sending slot).dispatches.sends.count ⟨slot.id, channel⟩ =
        sending.dispatches.sends.count ⟨slot.id, channel⟩ +
          if status.isAttempted then 1 else 0 := by
  simp only [remind, opted, open_, Bool.not_true, Option.isSome_none, Bool.or_self,
    Bool.false_eq_true, if_false]
  cases gate : tick.reFetchAndGate slot.id with
  | some reason =>
    have unsent := tick.skippedAtGate_not_attempted channel gate
    exact ⟨_, Dispatches.put_row_self _ _ _, by simp [unsent], by simp [unsent]⟩
  | none =>
    split_ifs with spent unreachable accepted
    · exact ⟨_, Dispatches.put_row_self _ _ _, by simp [Status.isAttempted, spent], rfl⟩
    · exact ⟨_, Dispatches.put_row_self _ _ _, by simp_all [Status.isAttempted], rfl⟩
    · exact ⟨_, Dispatches.put_row_self _ _ _, by simp_all [Status.isAttempted],
        List.count_cons_self⟩
    · exact ⟨_, Dispatches.put_row_self _ _ _, by simp_all [Status.isAttempted],
        List.count_cons_self⟩

variable {due : List Slot}

theorem foldl_remind_view (other : ∀ slot, slot ∈ due -> key = ⟨slot.id, channel⟩ ->
      optedIn channel slot = false) :
    (due.foldl (tick.remind channel) sending).dispatches.view key =
      sending.dispatches.view key := by
  induction due generalizing sending with
  | nil => rfl
  | cons slot rest inductionHypothesis =>
    rw [List.foldl_cons,
      inductionHypothesis fun slot member => other slot (List.mem_cons_of_mem _ member)]
    by_cases same : key = ⟨slot.id, channel⟩
    · rw [tick.remind_of_closed channel (.inl (other slot List.mem_cons_self same))]
    · exact tick.remind_view_of_ne channel same

theorem foldl_burnTelegram_view (other : ∀ slot, slot ∈ due ->
      key = ⟨slot.id, .telegram⟩ -> optedIn .telegram slot = false) :
    (due.foldl burnTelegram sending).dispatches.view key = sending.dispatches.view key := by
  induction due generalizing sending with
  | nil => rfl
  | cons slot rest inductionHypothesis =>
    rw [List.foldl_cons,
      inductionHypothesis fun slot member => other slot (List.mem_cons_of_mem _ member)]
    by_cases same : key = ⟨slot.id, .telegram⟩
    · rw [burnTelegram, if_pos (by simp [other slot List.mem_cons_self same])]
    · exact burnTelegram_view_of_ne same

theorem ne_of_not_mem (absent : slot.id ∉ due.map Slot.id) :
    ∀ other, other ∈ due -> (⟨slot.id, channel⟩ : DispatchKey) ≠ ⟨other.id, channel⟩ := by
  intro other member same
  have ids : slot.id = other.id := congrArg DispatchKey.slotId same
  rw [ids] at absent
  exact absent (List.mem_map_of_mem member)

theorem foldl_remind_budget (distinct : (due.map Slot.id).Nodup)
    (open_ : ∀ slot, slot ∈ due -> sending.dispatches.row ⟨slot.id, channel⟩ = none) :
    (due.foldl (tick.remind channel) sending).budget =
      sending.budget - (due.filter (tick.takesBudget channel)).length := by
  induction due generalizing sending with
  | nil => rfl
  | cons slot rest inductionHypothesis =>
    have parts := List.nodup_cons.mp distinct
    have rest_open : ∀ other, other ∈ rest ->
        (tick.remind channel sending slot).dispatches.row ⟨other.id, channel⟩ = none := by
      intro other member
      have different : (⟨other.id, channel⟩ : DispatchKey) ≠ ⟨slot.id, channel⟩ :=
        Ne.symm (ne_of_not_mem channel parts.1 other member)
      have same : (tick.remind channel sending slot).dispatches.view ⟨other.id, channel⟩ = _ :=
        tick.remind_view_of_ne channel different
      exact (congrArg Prod.fst same).trans (open_ other (List.mem_cons_of_mem _ member))
    rw [List.foldl_cons, inductionHypothesis parts.2 rest_open,
      tick.remind_budget channel (open_ slot List.mem_cons_self), List.filter_cons]
    split_ifs
    · rw [List.length_cons]
      omega
    · rfl

theorem foldl_remind_of_due {before rest : List Slot}
    (distinct : ((before ++ slot :: rest).map Slot.id).Nodup)
    (open_ : ∀ other, other ∈ before ++ slot :: rest ->
      sending.dispatches.row ⟨other.id, channel⟩ = none) (opted : optedIn channel slot = true) :
    ∃ status, (((before ++ slot :: rest).foldl (tick.remind channel) sending).dispatches.row
        ⟨slot.id, channel⟩ = some status) ∧
      (status.isAttempted = true <-> tick.reFetchAndGate slot.id = none ∧
        (before.filter (tick.takesBudget channel)).length < sending.budget ∧
        reachable channel slot = true) ∧
      ((before ++ slot :: rest).foldl (tick.remind channel) sending).dispatches.sends.count
        ⟨slot.id, channel⟩ = sending.dispatches.sends.count ⟨slot.id, channel⟩ +
          if status.isAttempted then 1 else 0 := by
  rw [List.map_append, List.map_cons] at distinct
  have parts := List.nodup_append.mp distinct
  have fresh : slot.id ∉ before.map Slot.id := fun listed =>
    parts.2.2 slot.id listed slot.id List.mem_cons_self rfl
  have start : (before.foldl (tick.remind channel) sending).dispatches.view
      ⟨slot.id, channel⟩ = _ :=
    tick.foldl_remind_view channel fun other member same =>
      absurd same (ne_of_not_mem channel fresh other member)
  have finish : (rest.foldl (tick.remind channel) (tick.remind channel
      (before.foldl (tick.remind channel) sending) slot)).dispatches.view
        ⟨slot.id, channel⟩ = _ :=
    tick.foldl_remind_view channel fun other member same =>
      absurd same (ne_of_not_mem channel (List.nodup_cons.mp parts.2.1).1 other member)
  have budget := tick.foldl_remind_budget channel parts.1 fun other member =>
    open_ other (List.mem_append_left _ member)
  have unwritten : (before.foldl (tick.remind channel) sending).dispatches.row
      ⟨slot.id, channel⟩ = none :=
    (congrArg Prod.fst start).trans
      (open_ slot (List.mem_append_right _ List.mem_cons_self))
  rcases tick.remind_of_open channel opted unwritten with ⟨status, written, attempted, counted⟩
  rw [List.foldl_append, List.foldl_cons]
  refine ⟨status, (congrArg Prod.fst finish).trans written, ?_, ?_⟩
  · rw [attempted, budget, Nat.sub_ne_zero_iff_lt]
  · exact (congrArg Prod.snd finish).trans
      (counted.trans (congrArg (· + _) (congrArg Prod.snd start)))

/-! ## A whole tick -/

variable {dispatches : Dispatches} {slotId : Nat}

theorem mem_dueSlots : slot ∈ tick.dueSlots dispatches channel <->
    slot ∈ tick.slots ∧ slot.booked = true ∧ tick.now < slot.startAt ∧
      slot.startAt ≤ tick.now + tick.windowMs + slackMs ∧ slot.accountOpen = true ∧
      dispatches.row ⟨slot.id, channel⟩ = none := by
  rw [dueSlots, List.mem_insertionSort, List.mem_filter]
  simp [and_assoc]

theorem distinct_readDueSlots : ((tick.readDueSlots dispatches channel).map Slot.id).Nodup := by
  have sorted := (List.perm_insertionSort (fun first second : Slot =>
    first.startAt ≤ second.startAt) (tick.slots.filter fun slot =>
      slot.booked && tick.now < slot.startAt &&
        slot.startAt ≤ tick.now + tick.windowMs + slackMs && slot.accountOpen &&
        (dispatches.row ⟨slot.id, channel⟩).isNone)).map Slot.id
  have distinct := sorted.nodup_iff.mpr (tick.distinct.sublist (List.filter_sublist.map Slot.id))
  exact distinct.sublist ((List.take_sublist _ _).map Slot.id)

theorem row_of_readDueSlots (member : slot ∈ tick.readDueSlots dispatches channel) :
    dispatches.row ⟨slot.id, channel⟩ = none :=
  ((tick.mem_dueSlots channel).mp (List.mem_of_mem_take member)).2.2.2.2.2

theorem dueSlots_congr {other : Dispatches}
    (same : ∀ slotId, other.row ⟨slotId, channel⟩ = dispatches.row ⟨slotId, channel⟩) :
    tick.dueSlots other channel = tick.dueSlots dispatches channel := by
  simp only [dueSlots, same]

theorem runChannel_view_of_ne (other : key.channel ≠ channel) :
    (tick.runChannel channel sending).dispatches.view key = sending.dispatches.view key := by
  have apart (slot : Slot) : key ≠ ⟨slot.id, channel⟩ := fun same =>
    other (congrArg DispatchKey.channel same)
  simp only [runChannel]
  split_ifs with active telegram
  · exact tick.foldl_remind_view channel fun slot _ same => absurd same (apart slot)
  · rw [telegram] at apart
    exact foldl_burnTelegram_view fun slot _ same => absurd same (apart slot)
  · rfl

def sendingAt (dispatches : Dispatches) : Channel -> Sending
  | .email => ⟨dispatches, tick.rateLimitPerTick⟩
  | .telegram => tick.runChannel .email ⟨dispatches, tick.rateLimitPerTick⟩
  | .push => tick.runChannel .telegram (tick.runChannel .email ⟨dispatches, tick.rateLimitPerTick⟩)

theorem sendingAt_view : (tick.sendingAt dispatches channel).dispatches.view ⟨slotId, channel⟩ =
      dispatches.view ⟨slotId, channel⟩ := by
  cases channel with
  | email => rfl
  | telegram => exact tick.runChannel_view_of_ne .email nofun
  | push =>
    exact (tick.runChannel_view_of_ne .telegram (by simp)).trans
      (tick.runChannel_view_of_ne .email (by simp))

theorem sendingAt_row : (tick.sendingAt dispatches channel).dispatches.row ⟨slotId, channel⟩ =
      dispatches.row ⟨slotId, channel⟩ :=
  congrArg Prod.fst (tick.sendingAt_view channel)

def anyActive : Bool :=
  tick.active .email || tick.active .telegram || tick.active .push

theorem anyActive_of_active (active : tick.active channel = true) : tick.anyActive = true := by
  cases channel <;> simp [anyActive, active]

theorem run_of_idle (idle : tick.anyActive = false) : tick.run dispatches = dispatches := by
  rw [run, if_pos (by simpa [anyActive, and_assoc] using idle)]

theorem run_view (some_active : tick.anyActive = true) :
    (tick.run dispatches).view ⟨slotId, channel⟩ =
      (tick.runChannel channel (tick.sendingAt dispatches channel)).dispatches.view
        ⟨slotId, channel⟩ := by
  have here : ¬(!tick.active .email && !tick.active .telegram && !tick.active .push) = true := by
    intro idle
    simp_all [anyActive]
  rw [run, if_neg here]
  cases channel with
  | email =>
    exact (tick.runChannel_view_of_ne .push (by simp)).trans
      (tick.runChannel_view_of_ne .telegram (by simp))
  | telegram => exact tick.runChannel_view_of_ne .push nofun
  | push => rfl

theorem readDueSlots_sendingAt :
    tick.readDueSlots (tick.sendingAt dispatches channel).dispatches channel =
      tick.readDueSlots dispatches channel := by
  rw [readDueSlots, tick.dueSlots_congr channel fun _ => tick.sendingAt_row channel]
  rfl

theorem run_of_due (active : tick.active channel = true) {before rest : List Slot}
    (due : tick.readDueSlots dispatches channel = before ++ slot :: rest)
    (opted : optedIn channel slot = true) :
    ∃ status, (tick.run dispatches).row ⟨slot.id, channel⟩ = some status ∧
      (status.isAttempted = true <-> tick.reFetchAndGate slot.id = none ∧
        (before.filter (tick.takesBudget channel)).length <
          (tick.sendingAt dispatches channel).budget ∧ reachable channel slot = true) ∧
      (tick.run dispatches).sends.count ⟨slot.id, channel⟩ =
        dispatches.sends.count ⟨slot.id, channel⟩ + if status.isAttempted then 1 else 0 := by
  have some_active := tick.anyActive_of_active channel active
  have view : (tick.run dispatches).view ⟨slot.id, channel⟩ = _ :=
    tick.run_view channel some_active
  have distinct : ((tick.readDueSlots dispatches channel).map Slot.id).Nodup :=
    tick.distinct_readDueSlots channel
  rw [due] at distinct
  have open_ : ∀ other, other ∈ before ++ slot :: rest ->
      (tick.sendingAt dispatches channel).dispatches.row ⟨other.id, channel⟩ = none := by
    intro other member
    rw [tick.sendingAt_row channel]
    exact tick.row_of_readDueSlots channel (due ▸ member)
  rw [runChannel, if_pos active, tick.readDueSlots_sendingAt channel, due] at view
  rcases tick.foldl_remind_of_due channel distinct open_ opted with
    ⟨status, written, attempted, counted⟩
  refine ⟨status, (congrArg Prod.fst view).trans written, attempted, ?_⟩
  exact (congrArg Prod.snd view).trans (counted.trans
    (congrArg (· + _) (congrArg Prod.snd (tick.sendingAt_view channel))))

theorem burnTelegram_isSome (written : (sending.dispatches.row key).isSome = true) :
    ((burnTelegram sending slot).dispatches.row key).isSome = true := by
  by_cases same : key = ⟨slot.id, .telegram⟩
  · rw [burnTelegram, if_pos (by simp [<- same, written])]
    exact written
  · have view : (burnTelegram sending slot).dispatches.view key = _ :=
      burnTelegram_view_of_ne same
    exact (congrArg (fun entry => entry.1.isSome) view).trans written

theorem foldl_burnTelegram_isSome (written : (sending.dispatches.row key).isSome = true) :
    ((due.foldl burnTelegram sending).dispatches.row key).isSome = true := by
  induction due generalizing sending with
  | nil => exact written
  | cons slot rest inductionHypothesis => exact inductionHypothesis (burnTelegram_isSome written)

theorem burned_of_due (member : slot ∈ due) (opted : optedIn .telegram slot = true) :
    ((due.foldl burnTelegram sending).dispatches.row ⟨slot.id, .telegram⟩).isSome = true := by
  induction due generalizing sending with
  | nil => cases member
  | cons head rest inductionHypothesis =>
    rcases List.mem_cons.mp member with rfl | later
    · have written : ((burnTelegram sending slot).dispatches.row
          ⟨slot.id, .telegram⟩).isSome = true := by
        unfold burnTelegram
        cases found : (sending.dispatches.row ⟨slot.id, .telegram⟩).isSome with
        | true => simp [found]
        | false => simp [found, opted]
      rw [List.foldl_cons]
      exact foldl_burnTelegram_isSome written
    · exact inductionHypothesis later

def SparesInactive (dispatches : Dispatches) : Prop :=
  ∀ channel, tick.active channel = false -> ∀ slotId,
    (tick.run dispatches).row ⟨slotId, channel⟩ = dispatches.row ⟨slotId, channel⟩

/-- Telegram is not active, another channel is, and the query returns a slot of a learner who
has asked for Telegram. -/
def burns (dispatches : Dispatches) : Bool :=
  tick.anyActive && !tick.active .telegram &&
    (tick.readDueSlots dispatches .telegram).any (optedIn .telegram)

theorem run_view_of_inactive (inactive : tick.active channel = false)
    (spares : tick.burns dispatches = false) :
    (tick.run dispatches).view ⟨slotId, channel⟩ = dispatches.view ⟨slotId, channel⟩ := by
  cases some_active : tick.anyActive with
  | false => rw [tick.run_of_idle some_active]
  | true =>
    rw [tick.run_view channel some_active, runChannel, if_neg (by simp [inactive])]
    split_ifs with telegram
    · subst telegram
      rw [burns, some_active, inactive, Bool.not_false, Bool.true_and, Bool.true_and,
        List.any_eq_false] at spares
      rw [tick.readDueSlots_sendingAt .telegram]
      refine Eq.trans (foldl_burnTelegram_view fun slot member _ => ?_)
        (tick.sendingAt_view .telegram)
      exact Bool.eq_false_iff.mpr (spares slot member)
    · exact tick.sendingAt_view channel

theorem sparesInactive_iff (dispatches : Dispatches) :
    tick.SparesInactive dispatches <-> tick.burns dispatches = false := by
  constructor
  · intro spares
    refine Bool.eq_false_iff.mpr fun burns => ?_
    simp only [Tick.burns, Bool.and_eq_true, Bool.not_eq_true', List.any_eq_true] at burns
    rcases burns with ⟨⟨some_active, inactive⟩, slot, member, opted⟩
    have kept := spares .telegram inactive slot.id
    have view : (tick.run dispatches).view ⟨slot.id, .telegram⟩ = _ :=
      tick.run_view .telegram some_active
    rw [runChannel, if_neg (by simp [inactive]), if_pos rfl,
      tick.readDueSlots_sendingAt .telegram] at view
    have written : (((tick.readDueSlots dispatches .telegram).foldl burnTelegram
        (tick.sendingAt dispatches .telegram)).dispatches.row ⟨slot.id, .telegram⟩).isSome = true :=
      burned_of_due member opted
    have none_left : (tick.run dispatches).row ⟨slot.id, .telegram⟩ = none :=
      kept.trans (tick.row_of_readDueSlots .telegram member)
    have ended := (congrArg (fun entry => entry.1.isSome) view).trans written
    rw [Dispatches.view, none_left] at ended
    exact Bool.noConfusion ended
  · intro spares channel inactive slotId
    exact congrArg Prod.fst (tick.run_view_of_inactive channel inactive spares)

/-! ## Channels that become active -/

/-- The slot is booked and its learner eligible on the channel. -/
structure Stands (slot : Slot) : Prop where
  listed : slot ∈ tick.slots
  booked : slot.booked = true
  accountOpen : slot.accountOpen = true
  addressed : hasAddress slot = true
  optedIn : optedIn channel slot = true
  reachable : reachable channel slot = true

structure StillDue (slot : Slot) : Prop extends tick.Stands channel slot where
  upcoming : tick.now < slot.startAt
  notEarly : slot.startAt ≤ tick.now + tick.windowMs + slackMs
  notLate : tick.now + tick.windowMs ≤ slot.startAt + slackMs

theorem find_slot (listed : slot ∈ tick.slots) :
    (tick.slots.find? fun other => other.id = slot.id) = some slot := by
  have unique := List.inj_on_of_nodup_map tick.distinct
  cases found : tick.slots.find? fun other => other.id = slot.id with
  | none => simpa using List.find?_eq_none.mp found slot listed
  | some other =>
    have same : other.id = slot.id := by simpa using List.find?_some found
    rw [unique (List.mem_of_find?_eq_some found) listed same]

theorem Stands.gate_iff {tick : Tick} {channel : Channel} {slot : Slot}
    (stands : tick.Stands channel slot) : tick.reFetchAndGate slot.id = none <->
      tick.now + tick.windowMs ≤ slot.startAt + slackMs := by
  rw [reFetchAndGate, tick.find_slot stands.listed]
  simp [stands.booked, stands.accountOpen, stands.addressed]

def load (dispatches : Dispatches) (channel : Channel) : Nat :=
  if tick.active channel then (tick.dueSlots dispatches channel).length else 0

def totalLoad (dispatches : Dispatches) : Nat :=
  tick.load dispatches .email + tick.load dispatches .telegram + tick.load dispatches .push

theorem foldl_burnTelegram_budget : (due.foldl burnTelegram sending).budget = sending.budget := by
  induction due generalizing sending with
  | nil => rfl
  | cons slot rest inductionHypothesis =>
    rw [List.foldl_cons, inductionHypothesis, burnTelegram]
    split_ifs <;> rfl

theorem le_budget_runChannel (sending : Sending) : sending.budget ≤
      (tick.runChannel channel sending).budget + tick.load sending.dispatches channel := by
  simp only [runChannel, load]
  split_ifs
  · have open_ : ∀ slot, slot ∈ tick.readDueSlots sending.dispatches channel ->
        sending.dispatches.row ⟨slot.id, channel⟩ = none := fun _ member =>
      tick.row_of_readDueSlots channel member
    rw [tick.foldl_remind_budget channel (tick.distinct_readDueSlots channel) open_]
    have taken := List.length_filter_le (tick.takesBudget channel)
      (tick.readDueSlots sending.dispatches channel)
    have limited : (tick.readDueSlots sending.dispatches channel).length ≤
        (tick.dueSlots sending.dispatches channel).length :=
      (List.take_sublist _ _).length_le
    omega
  · rw [foldl_burnTelegram_budget]
    exact Nat.le_refl _
  · exact Nat.le_refl _

theorem load_le_budget (fits : tick.totalLoad dispatches ≤ tick.rateLimitPerTick) :
    tick.load dispatches channel ≤ (tick.sendingAt dispatches channel).budget := by
  have email := tick.le_budget_runChannel .email ⟨dispatches, tick.rateLimitPerTick⟩
  have telegram := tick.le_budget_runChannel .telegram (tick.sendingAt dispatches .telegram)
  have same : tick.load (tick.sendingAt dispatches .telegram).dispatches .telegram =
      tick.load dispatches .telegram := by
    rw [load, tick.dueSlots_congr .telegram fun _ => tick.sendingAt_row .telegram, load]
  rw [same] at telegram
  rw [totalLoad] at fits
  cases channel with
  | email => exact Nat.le_trans (by omega) fits
  | telegram =>
    simp only [sendingAt] at email telegram ⊢
    omega
  | push =>
    simp only [sendingAt] at email telegram ⊢
    omega

theorem StillDue.reminded {tick : Tick} {channel : Channel} {slot : Slot}
    {dispatches : Dispatches} (due : tick.StillDue channel slot)
    (active : tick.active channel = true) (fits : tick.totalLoad dispatches ≤ tick.rateLimitPerTick)
    (open_ : dispatches.row ⟨slot.id, channel⟩ = none) :
    ∃ status, (tick.run dispatches).row ⟨slot.id, channel⟩ = some status ∧
      status.isAttempted = true := by
  have member : slot ∈ tick.dueSlots dispatches channel :=
    (tick.mem_dueSlots channel).mpr ⟨due.listed, due.booked, due.upcoming, due.notEarly,
      due.accountOpen, open_⟩
  have loaded : tick.load dispatches channel = (tick.dueSlots dispatches channel).length := by
    rw [load, if_pos active]
  have budget := tick.load_le_budget channel fits
  have all : tick.readDueSlots dispatches channel = tick.dueSlots dispatches channel := by
    refine List.take_of_length_le ?_
    have part : tick.load dispatches channel ≤ tick.totalLoad dispatches := by
      cases channel <;> simp only [totalLoad] <;> omega
    omega
  rw [loaded] at budget
  rcases List.append_of_mem member with ⟨before, rest, split⟩
  rcases tick.run_of_due channel active (all.trans split) due.optedIn with
    ⟨status, written, attempted, -⟩
  refine ⟨status, written, attempted.mpr ⟨due.gate_iff.mpr due.notLate, ?_, due.reachable⟩⟩
  have taken := List.length_filter_le (tick.takesBudget channel) before
  rw [split, List.length_append, List.length_cons] at budget
  omega

end Tick

def next (dispatches : Dispatches) (tick : Tick) : Dispatches :=
  tick.run dispatches

def reached (history : List Tick) : Dispatches :=
  after next Dispatches.empty history

theorem reached_append (history : List Tick) (tick : Tick) :
    reached (history ++ [tick]) = tick.run (reached history) :=
  after_append next _ _ _

theorem active_of_written {history : List Tick} {key : DispatchKey}
    (spared : Throughout next (fun dispatches tick => tick.burns dispatches = false)
      Dispatches.empty history) (written : (reached history).row key ≠ none) :
    ∃ before tick rest, history = before ++ tick :: rest ∧
      tick.active key.channel = true ∧ (reached before).row key = none := by
  induction history using List.reverseRecOn with
  | nil => exact absurd rfl written
  | append_singleton history tick inductionHypothesis =>
    have parts := Throughout.append_iff.mp spared
    by_cases before : (reached history).row key = none
    · refine ⟨history, tick, [], rfl, ?_, before⟩
      by_contra inactive
      have kept : (tick.run (reached history)).view key = _ :=
        tick.run_view_of_inactive key.channel (Bool.eq_false_iff.mpr inactive) parts.2.1
      rw [reached_append] at written
      exact written ((congrArg Prod.fst kept).trans before)
    · rcases inductionHypothesis parts.1 before with ⟨early, other, rest, split, met⟩
      exact ⟨early, other, rest ++ [tick], by rw [split, List.append_assoc]; rfl, met⟩

/-- A tick leaves the rows of inactive channels alone unless it burns some for Telegram.  In a
history of ticks that burn none, each row was written while its channel was active, and when a
channel is active, each slot without a row that is still due is reminded of, as long as the
limit covers what is due. -/
theorem inactive_channels_spared_iff (history : List Tick) :
    (∀ (tick : Tick) (dispatches : Dispatches),
      tick.SparesInactive dispatches <-> tick.burns dispatches = false) ∧
    (Throughout next (fun dispatches tick => tick.burns dispatches = false) Dispatches.empty
        history -> (∀ key, (reached history).row key ≠ none ->
        ∃ before tick rest, history = before ++ tick :: rest ∧
          tick.active key.channel = true ∧ (reached before).row key = none) ∧
      (∀ (tick : Tick) (channel : Channel) (slot : Slot), tick.active channel = true ->
        tick.StillDue channel slot -> tick.totalLoad (reached history) ≤ tick.rateLimitPerTick ->
        (reached history).row ⟨slot.id, channel⟩ = none ->
        ∃ status, (tick.run (reached history)).row ⟨slot.id, channel⟩ = some status ∧
          status.isAttempted = true)) := by
  refine ⟨Tick.sparesInactive_iff, fun spared => ⟨fun key => ?_, ?_⟩⟩
  · exact active_of_written spared
  · intro tick channel slot active due fits open_
    exact due.reminded active fits open_

/-- A learner who can be reached on every channel, of a lesson an hour after the first second. -/
def reachableSlot (id startAt : Nat) (telegram : Bool) : Slot where
  id := id
  booked := true
  startAt := startAt
  email := some "learner@example.com"
  disabled := false
  scheduledPurge := false
  purged := false
  learnerTelegramEnabled := telegram
  learnerTelegramChatId := some "1"
  pushSubscriptions := 1

/-- A tick with a window of an hour that finds one slot, whose learner may have asked for
Telegram by then. -/
def singleSlotTick (now : Nat) (email telegram asked : Bool) : Tick where
  now := now
  windowMinutes := 60
  window_least := by decide
  rateLimitPerTick := 2
  emailEnabled := email
  telegramHelperShipped := true
  telegramMasterSwitch := telegram
  telegramTokenPresent := true
  pushMasterSwitch := false
  vapidKeysPresent := false
  slots := [reachableSlot 1 36000000 asked]
  distinct := List.nodup_singleton _
  accepts := fun _ => true

/-- With Telegram switched off and the e-mail on, the tick at the moment of the reminder burns
the row; switched on in time, Telegram sends nothing. -/
theorem telegram_burned_while_inactive :
    ¬(singleSlotTick 32400000 true false true).SparesInactive Dispatches.empty ∧
    (singleSlotTick 32400000 true false true).active .telegram = false ∧
    (singleSlotTick 32420000 true true true).StillDue .telegram (reachableSlot 1 36000000 true) ∧
    (reached [singleSlotTick 32400000 true false true, singleSlotTick 32420000 true true true]).row
      ⟨1, .telegram⟩ = some (.skipped .telegramHelperNotShipped) := by
  refine ⟨fun spares => ?_, rfl, ?_, by decide +kernel⟩
  · exact absurd (spares .telegram rfl 1) (by decide +kernel)
  · exact ⟨by constructor <;> decide +kernel, by decide +kernel, by decide +kernel,
      by decide +kernel⟩

/-- A learner who asks for Telegram after the mail has gone is reminded there as well. -/
theorem telegram_reminds_once_active :
    (singleSlotTick 32400000 true false false).SparesInactive Dispatches.empty ∧
    ∃ status, ((singleSlotTick 32420000 true true true).run
      (reached [singleSlotTick 32400000 true false false])).row ⟨1, .telegram⟩ = some status ∧
        status.isAttempted = true := by
  have laws := inactive_channels_spared_iff [singleSlotTick 32400000 true false false]
  refine ⟨(laws.1 _ _).mpr (by decide +kernel), ?_⟩
  exact (laws.2 (by decide +kernel)).2
    (singleSlotTick 32420000 true true true) .telegram (reachableSlot 1 36000000 true)
    (by decide +kernel)
    ⟨by constructor <;> decide +kernel, by decide +kernel, by decide +kernel, by decide +kernel⟩
    (by decide +kernel) (by decide +kernel)

end Reminders

end LevelChannel
