import LevelChannel.ReadCommitted.Results
import LevelChannel.Refunds.Runs

namespace LevelChannel.Refunds

open ReadCommitted Tables

/-!
# Repeated manual refunds

The manual route reads no idempotency key and looks up no earlier request.  A request sent
twice is two requests, and only the balance of the allocation tells them apart: the second
one is refused where the first one has left less than it asks for.
-/

variable {start : Db} {request : ManualRefundRequest} {session : Nat}

def posting (request : ManualRefundRequest) : Nat -> Request := fun _ => .manual request

/-- What a request asks for.  The route refuses one that names no amount. -/
def askedKopecks (request : ManualRefundRequest) : Nat :=
  (positiveInteger request.refundedKopecks).getD 0

def recorded (db : Db) : List AllocationReversal :=
  db.reversals.filter fun row => row.id.minter.isSome

def Reported (db : Db) : Reply -> Prop
  | .json _ rows => ∃ reversal, reversal ∈ recorded db ∧ rows = [reversal.id]
  | _ => True

/-- The requests have recorded one reversal at most, and each that succeeded reports it. -/
structure ReportedOnce (state : State) : Prop where
  once : (recorded state.db).length ≤ 1
  reported : ∀ session reply, (state.sessions session).program = .done reply ->
    Reported state.db reply

def Exhausts (start : Db) (key : AllocationKey) (amount : Nat) (row : PaymentAllocation) : Prop :=
  row.amountKopecks < start.refundedKopecks key + 2 * amount

/-- Where a request checks its bound, the allocation is of a package, which is refunded as a
whole, or cannot carry the refund twice. -/
def RoomForOne (start : Db) (request : ManualRefundRequest) : Label -> Db -> Prop
  | .refundBound key _, now => ∃ row, now.allocation? key = some row ∧
      (key.kind = .package ∨ Exhausts start key (askedKopecks request) row)
  | _, _ => True

/-- What the requests and the world do to the refund tables: allocations stay, and a
reversal of the amount is added while the allocation cannot carry it twice. -/
structure Books (start : Db) (key : AllocationKey) (amount : Nat) (before after : Db) : Prop where
  allocations : ∀ other row, before.allocation? other = some row ->
    after.allocation? other = some row
  reversals : after.reversals = before.reversals ∨ ∃ reversal row,
    after.reversals = before.reversals ++ [reversal] ∧ reversal.id.minter.isSome ∧
      reversal.allocation = key ∧ reversal.refundedKopecks = amount ∧
      before.allocation? key = some row ∧ Exhausts start key amount row

/-- The recorded reversals are all there is beyond the start, and the allocation they are on
cannot carry two of them. -/
structure Tallied (start : Db) (key : AllocationKey) (amount : Nat) (db : Db) : Prop where
  sum : db.refundedKopecks key = start.refundedKopecks key + (recorded db).length * amount
  exhausted : recorded db ≠ [] -> ∃ row, db.allocation? key = some row ∧
    Exhausts start key amount row

section Books

variable {key : AllocationKey} {amount : Nat} {before after : Db}

private theorem refundedKopecks_append (reversal : AllocationReversal)
    (added : after.reversals = before.reversals ++ [reversal]) (on : reversal.allocation = key) :
    after.refundedKopecks key = before.refundedKopecks key + reversal.refundedKopecks := by
  rw [Db.refundedKopecks, Db.refundedKopecks, added, total_append]
  simp [total, on]

private theorem recorded_append (reversal : AllocationReversal)
    (added : after.reversals = before.reversals ++ [reversal])
    (minted : reversal.id.minter.isSome) : recorded after = recorded before ++ [reversal] := by
  rw [recorded, recorded, added, List.filter_append]
  simp [minted]

private theorem Books.quiet (allocations : ∀ other row,
      before.allocation? other = some row -> after.allocation? other = some row)
    (same : after.reversals = before.reversals) : Books start key amount before after :=
  ⟨allocations, Or.inl same⟩

theorem Books.drift (start : Db) (key : AllocationKey) (amount : Nat) (change : Drift)
    (db : Db) : Books start key amount db (db.drift change) := by
  apply Books.quiet
  · exact (drift_guarantee change db 0 []).allocations
  · cases change with
    | tick milliseconds => rfl
    | catalog catalog => rfl
    | slot row => exact (sameRefunds_slot db row).reversals
    | order change => rfl
    | allocation row => exact (allocate_extends db row).reversals
    | earning row => rfl

theorem Books.recorded_mem (books : Books start key amount before after)
    {reversal : AllocationReversal} (member : reversal ∈ recorded before) :
    reversal ∈ recorded after := by
  rcases books.reversals with same | ⟨added, _, appended, minted, -⟩
  · rw [recorded, same]
    exact member
  · rw [recorded_append added appended minted]
    exact List.mem_append_left _ member

theorem Tallied.books (tallied : Tallied start key amount before)
    (books : Books start key amount before after) : Tallied start key amount after := by
  rcases books.reversals with same | ⟨reversal, row, appended, minted, on, sized, read, exhausts⟩
  · have recordedSame : recorded after = recorded before := by rw [recorded, recorded, same]
    constructor
    · rw [recordedSame, ← tallied.sum, Db.refundedKopecks, Db.refundedKopecks, same]
    · intro nonempty
      rw [recordedSame] at nonempty
      rcases tallied.exhausted nonempty with ⟨row, read, exhausts⟩
      exact ⟨row, books.allocations key row read, exhausts⟩
  · constructor
    · rw [refundedKopecks_append reversal appended on, tallied.sum,
        recorded_append reversal appended minted, List.length_append, sized, Nat.add_mul,
        List.length_singleton, Nat.one_mul, Nat.add_assoc]
    · intro _
      exact ⟨row, books.allocations key row read, exhausts⟩

end Books

/-! ## One request -/

section Requests

abbrev Answers (start : Db) (request : ManualRefundRequest) (key : AllocationKey) (amount : Nat) :
    Program -> Db -> List Write -> Prop :=
  ReadCommitted.Program.Ensures store (RoomForOne start request) (Books start key amount) Reported

variable {key : AllocationKey} {amount : Nat} {before after : Db}

private theorem answers_refused (status : Nat) (error message : String) (db : Db)
    (pending : List Write) :
    Answers start request key amount (.done (.refused status error message)) db pending :=
  fun _ _ => trivial

private theorem answers_rollback (status : Nat) (error message : String) (db : Db)
    (pending : List Write) :
    Answers start request key amount (.rollback (.done (.refused status error message))) db
      pending :=
  fun _ _ _ _ => trivial

private theorem allocation_stays (row : PaymentAllocation) (before after : Db)
    (books : Books start key amount before after) (read : before.allocation? key = some row) :
    after.allocation? key = some row :=
  books.allocations key row read

private theorem commitReversal_answers {reversal : AllocationReversal} {row : PaymentAllocation}
    {writes : List Write} {db : Db} (minted : reversal.id.minter.isSome)
    (on : reversal.allocation = key) (sized : reversal.refundedKopecks = amount)
    (exhausts : Exhausts start key amount row) (read : db.allocation? key = some row)
    (package : ∀ write, write ∈ writes -> PackageWrite write) : Answers start request key amount
      (.commit (.done (.refused 500 "internal_error" "")) (.done (.json 201 [reversal.id]))) db
      (.reversal reversal :: writes) := by
  have applied : ∀ now : Db,
      (store.applyAll now (.reversal reversal :: writes)).allocations = now.allocations ∧
        (store.applyAll now (.reversal reversal :: writes)).reversals =
          now.reversals ++ [reversal] := by
    intro now
    have same := sameRefunds_applyAll
      (fun write member => unrelated_of_packageWrite (package write member))
      (now.apply (.reversal reversal))
    exact ⟨same.allocations, same.reversals⟩
  apply ReadCommitted.Program.Ensures.commit (fun now => now.allocation? key = some row)
    (allocation_stays row) read
  · exact fun now => answers_refused _ _ _ _ _
  · intro now known
    constructor
    · intro other found readOther
      rw [Db.allocation?, (applied now).1]
      exact readOther
    · exact Or.inr ⟨reversal, row, (applied now).2, minted, on, sized, known, exhausts⟩
  · intro now _ later changed
    refine ⟨reversal, ?_, rfl⟩
    apply ReadCommitted.Program.kept_of_changes (fun _ _ books => books.recorded_mem) changed
    rw [recorded_append reversal (applied now).2 minted]
    exact List.mem_append_right _ (List.mem_singleton_self reversal)

theorem restoreAllConsumptionsForPurchase_answers {clock : Nat} {packagePurchaseId : RowId}
    {actor : Actor} {reason : Option String} {onError next : Program} {db : Db}
    {pending : List Write} {row : PaymentAllocation} (read : db.allocation? key = some row)
    (failed : ∀ now, Answers start request key amount onError now [])
    (went : ∀ now writes, now.allocation? key = some row ->
      (∀ write, write ∈ writes -> PackageWrite write) ->
      Answers start request key amount next now (pending ++ writes)) :
    Answers start request key amount
      (Program.restoreAllConsumptionsForPurchase clock packagePurchaseId actor reason onError next)
      db pending := by
  apply ReadCommitted.Program.Ensures.statement _ (allocation_stays row) read failed
  intro now known _
  apply ReadCommitted.Program.Ensures.statement _ (allocation_stays row) known failed
  intro now known _
  apply ReadCommitted.Program.Ensures.statement _ (allocation_stays row) known failed
  intro now known _
  rw [List.append_nil, List.append_assoc]
  apply went now _ known
  intro write member
  rcases List.mem_append.mp member with voided | restored
  · exact packageWrite_of_void voided
  · exact packageWrite_of_restore restored

theorem recordManualRefund_answers (positive : 0 < askedKopecks request)
    (operatorAccountId : RowId) (reason : Option String) (db : Db) :
    Answers start request key (askedKopecks request)
      (Program.recordManualRefund session operatorAccountId key (askedKopecks request) reason)
      db [] := by
  have always : ∀ before after, Books start key (askedKopecks request) before after ->
      True -> True := fun _ _ _ holds => holds
  have failed : ∀ now, Answers start request key (askedKopecks request)
      (.done (.refused 500 "internal_error" "")) now [] := fun _ => answers_refused _ _ _ _ _
  apply ReadCommitted.Program.Ensures.acquiring _ always trivial failed
  intro now _ _
  apply ReadCommitted.Program.Ensures.acquiring _ always trivial failed
  intro locked _ _
  beta_reduce
  cases readAllocation : locked.allocation? key with
  | none => exact answers_rollback _ _ _ _ _
  | some allocation =>
    apply ReadCommitted.Program.Ensures.acquiring _ (allocation_stays allocation) readAllocation
      failed
    intro bound read permitted
    dsimp only
    split
    · exact answers_rollback _ _ _ _ _
    split
    · exact answers_rollback _ _ _ _ _
    next whole =>
      have exhausts : Exhausts start key (askedKopecks request) allocation := by
        rcases permitted with ⟨row, found, narrow⟩
        rw [read] at found
        cases found
        rcases narrow with package | exhausts
        · have amount : askedKopecks request = allocation.amountKopecks := by
            by_contra part
            exact whole ⟨package, part⟩
          rw [Exhausts, ← amount]
          omega
        · exact exhausts
      apply ReadCommitted.Program.Ensures.statement _ (allocation_stays allocation) read failed
      intro checked read _
      dsimp only
      split
      · exact answers_rollback _ _ _ _ _
      · cases key.kind with
        | lessonSlot =>
          exact commitReversal_answers rfl rfl rfl exhausts read fun _ member => nomatch member
        | package =>
          apply restoreAllConsumptionsForPurchase_answers read failed
          intro now writes read package
          exact commitReversal_answers rfl rfl rfl exhausts read package

theorem positiveInteger_pos {number : Option JsonNumber} {value : Nat}
    (read : positiveInteger number = some value) : 0 < value := by
  unfold positiveInteger at read
  split at read
  · next integer =>
    split at read
    · cases read
      omega
    · cases read
  · cases read

theorem manualRefund_answers (start : Db) (request : ManualRefundRequest) :
    ∃ key, ∀ session db, Answers start request key (askedKopecks request)
      (Program.manualRefund session request) db [] := by
  simp only [Program.manualRefund]
  split
  next paymentOrderId kind targetId amount _ _ _ asks =>
    have asked : askedKopecks request = amount := by rw [askedKopecks, asks, Option.getD_some]
    have positive : 0 < askedKopecks request := asked ▸ positiveInteger_pos asks
    split
    · exact ⟨⟨paymentOrderId, .lessonSlot, targetId⟩, fun _ _ => answers_refused _ _ _ _ _⟩
    split
    · exact ⟨⟨paymentOrderId, .lessonSlot, targetId⟩, fun _ _ => answers_refused _ _ _ _ _⟩
    next allocationKind _ =>
      refine ⟨⟨paymentOrderId, allocationKind, targetId⟩, fun session db => ?_⟩
      split
      · exact answers_refused _ _ _ _ _
      apply ReadCommitted.Program.Ensures.acquiring (fun _ => True) (fun _ _ _ holds => holds)
        trivial
      · exact fun _ _ _ => trivial
      · intro now _ _
        split
        · exact answers_refused _ _ _ _ _
        split
        · exact answers_refused _ _ _ _ _
        · rw [← asked]
          exact recordManualRefund_answers positive request.operatorAccountId _ now
  next =>
    exact ⟨⟨.generated (.seeded 0), .lessonSlot, .canonical (.seeded 1)⟩,
      fun _ _ => answers_refused _ _ _ _ _⟩

end Requests

private theorem once_of_tallied {terms : Terms} {key : AllocationKey} {amount : Nat} {db : Db}
    (good : Good terms db) (tallied : Tallied start key amount db) : (recorded db).length ≤ 1 := by
  by_contra more
  have two : 2 ≤ (recorded db).length := Nat.lt_of_not_le more
  have nonempty : recorded db ≠ [] := by
    intro empty
    rw [empty] at two
    cases two
  rcases tallied.exhausted nonempty with ⟨row, read, exhausts⟩
  have within : db.refundedKopecks key ≤ row.amountKopecks := by
    rw [← key_of_get read]
    exact good.bounded row (mem_of_get read)
  have least : 2 * amount ≤ (recorded db).length * amount := Nat.mul_le_mul_right amount two
  rw [tallied.sum] at within
  rw [Exhausts] at exhausts
  omega

/-- Where the allocation cannot carry the refund twice, the same request sent any number of
times records one reversal at most, and every answer of success reports it. -/
theorem manual_refund_recorded_once (opened : Opening start)
    (fresh : ∀ row, row ∈ start.reversals -> row.id.minter = none) {state : State}
    (reached : Reaches store (RoomForOne start request) (opening start (posting request)) state) :
    ReportedOnce state := by
  rcases manualRefund_answers start request with ⟨key, answers⟩
  have none_recorded : recorded start = [] := by
    rw [recorded, List.filter_eq_nil_iff]
    intro row member minted
    rw [fresh row member] at minted
    cases minted
  have tallied : Tallied start key (askedKopecks request) start := by
    constructor
    · rw [none_recorded, List.length_nil, Nat.zero_mul, Nat.add_zero]
    · exact fun nonempty => absurd none_recorded nonempty
  have answered := right_of_reaches
    (fun session db => @Books.quiet start key (askedKopecks request) db (store.close session db)
      (fun _ _ read => read) rfl)
    (Books.drift start key (askedKopecks request))
    (fun _ _ books holds => holds.books books) (fun session => answers session start) tallied
    reached
  have admissible : Admissible (relaxed (posting request)) (RoomForOne start request) :=
    { lookup := by
        intro _ _ _ _ _ _ mine _
        cases mine
      bound := fun strict => strict.elim }
  have good := good_of_reaches admissible (fun _ => rfl) (opened.relaxed (posting request))
    opened.unminted reached
  constructor
  · exact once_of_tallied good answered.2
  · exact answered.1

def lessonRecord (refundedKopecks : Nat) : ManualRefundRequest where
  operatorAccountId := .seeded 3
  paymentOrderId := some lesson.paymentOrderId
  kind := some "lesson_slot"
  targetId := some lesson.targetId
  refundedKopecks := some (.integer refundedKopecks)
  reason := none
  refundedAtIso := none

/-- Half of the lesson is refunded twice. -/
theorem manual_refund_recorded_twice :
    ¬ ∀ (start : Db) (request : ManualRefundRequest) (state : State), Opening start ->
      (∀ row, row ∈ start.reversals -> row.id.minter = none) ->
      Reaches store (fun _ _ => True) (opening start (posting request)) state ->
        ReportedOnce state := by
  intro once
  rcases exists_of_play store (opening lessonLedger (posting (lessonRecord 50)))
    (turns 0 6 ++ turns 1 6) (fun db => (recorded db).length = 2) (by decide)
    with ⟨state, reached, twice⟩
  have most := (once lessonLedger (lessonRecord 50) state lessonLedger_opening
    (by simp [lessonLedger, Db.empty]) reached).once
  rw [twice] at most
  omega

private def roomForOne (start : Db) (request : ManualRefundRequest) : Label -> Db -> Bool
  | .refundBound key _, now => (now.allocation? key).any fun row =>
      key.kind = .package || row.amountKopecks < start.refundedKopecks key +
        2 * askedKopecks request
  | _, _ => true

private theorem roomForOne_sound (start : Db) (request : ManualRefundRequest) (label : Label)
    (now : Db) (met : roomForOne start request label now = true) :
    RoomForOne start request label now := by
  cases label with
  | refundBound key amount =>
    simp only [roomForOne, Option.any_eq_true, Bool.or_eq_true, decide_eq_true_eq] at met
    exact met
  | plain => trivial
  | attemptLookup operatorAccountId idempotencyKey => trivial
  | settleDedup teacherId learnerAccountId amountKopecks => trivial

/-- Three fifths of the lesson are refunded once: the second request is refused. -/
theorem manual_refund_recorded_once_lesson : ∃ state : State,
      Reaches store (RoomForOne lessonLedger (lessonRecord 60))
        (opening lessonLedger (posting (lessonRecord 60))) state ∧
      (recorded state.db).length = 1 ∧ ReportedOnce state := by
  rcases exists_of_playWhen store
    (permitted_of_testing (roomForOne_sound lessonLedger (lessonRecord 60)))
    (turns 0 6 ++ turns 1 5) (fun state => (recorded state.db).length == 1)
    (.refl (opening lessonLedger (posting (lessonRecord 60)))) (by decide +kernel)
    with ⟨state, reached, once⟩
  exact ⟨state, reached.permitted, by simpa using once,
    manual_refund_recorded_once lessonLedger_opening (by simp [lessonLedger, Db.empty])
      reached.permitted⟩

end LevelChannel.Refunds
