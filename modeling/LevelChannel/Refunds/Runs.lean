import LevelChannel.ReadCommitted.Sessions
import LevelChannel.Refunds.Safety

namespace LevelChannel.Refunds

open ReadCommitted Tables Relation

/-!
# Runs of the refund routes

Any number of sessions, each of them a gateway refund, a manual refund or a sweep of the
reconcile worker, in any order of their steps.  What holds of every run in which no
request takes over the attempt of another is read off the contract; what goes wrong
otherwise is shown by two requests with one key.
-/

variable {db : Db}

/-! ## Requests -/

inductive Request where
  | gateway (request : GatewayRefundRequest)
  | manual (request : ManualRefundRequest)
  | reconcile (pendingTimeoutMinutes batchSize : Nat)
  deriving DecidableEq

namespace Request

def program (session : Nat) : Request -> Program
  | .gateway request => Program.gatewayRefund session request
  | .manual request => Program.manualRefund session request
  | .reconcile pendingTimeoutMinutes batchSize =>
    Program.runRefundReconcile session pendingTimeoutMinutes batchSize

def credential : Request -> Option (RowId × String)
  | .gateway request => GatewayRefundRequest.credential request
  | _ => none

end Request

def opening (db : Db) (requests : Nat -> Request) : State :=
  State.start db fun session => (requests session).program session

/-- A ledger in order, in which no session of the run has recorded an attempt. -/
structure Opening (db : Db) : Prop where
  good : Good ⟨fun _ => none, False⟩ db
  unminted : ∀ session, NoOwnAttempt session db

/-- The second lookup of a key, inside the first phase, finds no attempt either. -/
def NoReplay : Label -> Db -> Prop
  | .attemptLookup operatorAccountId idempotencyKey, now =>
    now.attemptByIdempotency operatorAccountId idempotencyKey = none
  | _, _ => True

def RoomForOpen : Label -> Db -> Prop
  | .refundBound key amount, now => ∀ allocation, now.allocation? key = some allocation ->
      now.refundedKopecks key + amount ≤ allocation.amountKopecks ->
        exposedKopecks now key + amount ≤ allocation.amountKopecks
  | _, _ => True

section Runs

variable {terms : Terms} {permits : Label -> Db -> Prop} {requests : Nat -> Request}
  {state : State}

theorem request_safe (admissible : Admissible terms permits) {session : Nat} (request : Request)
    (credentials : terms.credentials session = request.credential) (good : Good terms db)
    (nothing : NoOwnAttempt session db) :
    (contract terms).Safe store permits session (request.program session) [] [] db := by
  cases request with
  | gateway request => exact gatewayRefund_safe admissible credentials nothing
  | manual request => exact manualRefund_safe admissible request db good
  | reconcile pendingTimeoutMinutes batchSize =>
    exact runRefundReconcile_safe pendingTimeoutMinutes batchSize db good

theorem good_of_reaches (admissible : Admissible terms permits)
    (credentials : ∀ session, terms.credentials session = (requests session).credential)
    (good : Good terms db) (unminted : ∀ session, NoOwnAttempt session db)
    (reached : Reaches store permits (opening db requests) state) : Good terms state.db := by
  have start : Contract.Sound (contract terms) store permits (opening db requests) :=
    Contract.Sound.start good fun session =>
      request_safe admissible (requests session) (credentials session) good (unminted session)
  exact (start.reaches (steady terms) reached).1.good

def relaxed (requests : Nat -> Request) : Terms where
  credentials session := (requests session).credential
  strict := False

theorem Opening.relaxed (start : Opening db) (requests : Nat -> Request) :
    Good (relaxed requests) db :=
  { start.good with
    owned := fun row member session minted => absurd minted (start.unminted session row member)
    foreign := fun strict => strict.elim
    allocated := fun strict => strict.elim
    covered := fun strict => strict.elim }

theorem noReplay_admissible (requests : Nat -> Request) :
    Admissible (Refunds.relaxed requests) NoReplay where
  lookup := fun _ _ _ _ _ _ _ permitted => permitted
  bound := fun strict => strict.elim

theorem good_of_noReplay (start : Opening db)
    (reached : Reaches store NoReplay (opening db requests) state) :
    Good (relaxed requests) state.db :=
  good_of_reaches (noReplay_admissible requests) (fun _ => rfl) (start.relaxed requests)
    start.unminted reached

def callsFor (db : Db) (operatorAccountId : RowId) (idempotencyKey : String) : List GatewayRefund :=
  db.gatewayRefunds.filter fun sent =>
    sent.operatorAccountId = operatorAccountId && sent.idempotencyKey = some idempotencyKey

theorem callsFor_of_good {terms : Terms} (good : Good terms db) (operatorAccountId : RowId)
    (idempotencyKey : String) : (callsFor db operatorAccountId idempotencyKey).length ≤ 1 := by
  have once : ((callsFor db operatorAccountId idempotencyKey).map
      GatewayRefund.attemptId).Nodup :=
    good.sentOnce.sublist (List.filter_sublist.map GatewayRefund.attemptId)
  have attempted : ∀ sent, sent ∈ callsFor db operatorAccountId idempotencyKey ->
      ∃ attempt, attempt ∈ db.attempts ∧ attempt.id = sent.attemptId ∧
        credential attempt = some (operatorAccountId, idempotencyKey) := by
    intro sent member
    rcases List.mem_filter.mp member with ⟨listed, chosen⟩
    simp only [Bool.and_eq_true, decide_eq_true_eq] at chosen
    rcases good.sentRecorded sent listed with ⟨attempt, read, operator, key, -⟩
    refine ⟨attempt, mem_of_get read, key_of_get read, ?_⟩
    rw [credential, key, operator, chosen.1, chosen.2, Option.map_some]
  have same : ∀ first, first ∈ callsFor db operatorAccountId idempotencyKey ->
      ∀ second, second ∈ callsFor db operatorAccountId idempotencyKey ->
        first.attemptId = second.attemptId := by
    intro first memberFirst second memberSecond
    rcases attempted first memberFirst with ⟨one, listedOne, idOne, keyOne⟩
    rcases attempted second memberSecond with ⟨two, listedTwo, idTwo, keyTwo⟩
    have alike := good.idempotent one listedOne two listedTwo (by rw [keyOne]; simp)
      (keyOne.trans keyTwo.symm)
    rw [← idOne, ← idTwo, alike]
  rcases calls : callsFor db operatorAccountId idempotencyKey with
    _ | ⟨first, _ | ⟨second, rest⟩⟩
  · simp
  · simp
  · rw [calls] at once same
    have clash := same first (by simp) second (by simp)
    simp [clash] at once

/-- Without replays the provider is called at most once for a key. -/
theorem gatewayRefund_called_once (start : Opening db)
    (reached : Reaches store NoReplay (opening db requests) state) (operatorAccountId : RowId)
    (idempotencyKey : String) : (callsFor state.db operatorAccountId idempotencyKey).length ≤ 1 :=
  callsFor_of_good (good_of_noReplay start reached) operatorAccountId idempotencyKey

/-- Without replays reversals stay within the allocation, an attempt books at most one of
them, and it has succeeded exactly if it carries one. -/
theorem reversals_in_order (start : Opening db)
    (reached : Reaches store NoReplay (opening db requests) state) :
    (∀ row, row ∈ state.db.allocations -> state.db.refundedKopecks row.key ≤ row.amountKopecks) ∧
      (state.db.reversals.filterMap AllocationReversal.bookedFor).Nodup ∧
      ∀ row, row ∈ state.db.attempts -> (row.status = .succeeded <-> row.reversalId.isSome) :=
  have good := good_of_noReplay start reached
  ⟨good.bounded, good.bookedOnce, good.settled⟩

def acceptedKopecks (db : Db) (key : AllocationKey) : Nat :=
  total (fun sent => sent.allocation = key && sent.accepted) GatewayRefund.amountKopecks
    db.gatewayRefunds

theorem acceptedKopecks_le {terms : Terms} (good : Good terms db) (key : AllocationKey) :
    acceptedKopecks db key ≤ possibleKopecks db key := by
  refine total_le_total GatewayRefund.attemptId RefundAttempt.id good.sentOnce ?_
  intro sent member chosen
  simp only [Bool.and_eq_true, decide_eq_true_eq] at chosen
  rcases good.sentRecorded sent member with ⟨attempt, read, -, -, allocation, amount, accepted⟩
  refine ⟨attempt, mem_of_get read, key_of_get read, ?_, Nat.le_of_eq amount.symm⟩
  simp [allocation, chosen.1, accepted chosen.2]

/-- The requests of a run use keys of their own, and what is under way already fits. -/
structure Apart (db : Db) (requests : Nat -> Request) : Prop where
  fresh : ∀ session, (requests session).credential ≠ none -> ∀ row,
    row ∈ db.attempts -> (requests session).credential ≠ credential row
  distinct : ∀ first second, first ≠ second -> (requests first).credential ≠ none ->
    (requests first).credential ≠ (requests second).credential
  allocated : ∀ row, row ∈ db.attempts -> (db.allocation? row.allocation).isSome
  covered : ∀ row, row ∈ db.allocations -> exposedKopecks db row.key ≤ row.amountKopecks

def strict (requests : Nat -> Request) : Terms where
  credentials session := (requests session).credential
  strict := True

theorem Opening.strict (start : Opening db) (apart : Apart db requests) :
    Good (strict requests) db :=
  { start.good with
    owned := fun row member session minted => absurd minted (start.unminted session row member)
    foreign := by
      intro _ row member _ session keyed same
      have mine : (requests session).credential = credential row := same
      exact apart.fresh session (by rw [mine]; exact keyed) row member mine
    allocated := fun _ => apart.allocated
    covered := fun _ => apart.covered }

theorem roomForOpen_admissible (apart : Apart db requests) :
    Admissible (Refunds.strict requests) RoomForOpen where
  lookup := by
    intro session now owner key good nothing mine _
    cases found : now.attemptByIdempotency owner key with
    | none => rfl
    | some row =>
      exfalso
      have member : row ∈ now.attempts := List.mem_of_find?_eq_some found
      have chosen := List.find?_some found
      simp only [Bool.and_eq_true, decide_eq_true_eq] at chosen
      have keyed : credential row = some (owner, key) := by
        rw [credential, chosen.2, chosen.1, Option.map_some]
      cases minter : row.id.minter with
      | none =>
        exact good.foreign trivial row member minter session (by rw [keyed]; simp)
          (mine.trans keyed.symm)
      | some other =>
        by_cases own : other = session
        · exact nothing row member (own ▸ minter)
        · have theirs : (requests other).credential = some (owner, key) :=
            (good.owned row member other minter).trans keyed
          have ours : (requests session).credential = some (owner, key) := mine
          exact apart.distinct other session own (by rw [theirs]; simp) (theirs.trans ours.symm)
  bound _ _ _ _ allocation permitted := permitted allocation

/-- Where no bound lets a refund through that the open attempts leave no room for, what the
provider accepted and what was recorded by hand stay within the allocation. -/
theorem refunds_within_allocation (start : Opening db) (apart : Apart db requests)
    (reached : Reaches store RoomForOpen (opening db requests) state) :
    ∀ row, row ∈ state.db.allocations ->
      acceptedKopecks state.db row.key + manualKopecks state.db row.key ≤ row.amountKopecks := by
  intro row member
  have good : Good (Refunds.strict requests) state.db :=
    good_of_reaches (roomForOpen_admissible apart) (fun _ => rfl) (start.strict apart) start.unminted
      reached
  calc
    acceptedKopecks state.db row.key + manualKopecks state.db row.key
        ≤ possibleKopecks state.db row.key + manualKopecks state.db row.key :=
      Nat.add_le_add_right (acceptedKopecks_le good row.key) _
    _ ≤ row.amountKopecks := good.covered trivial row member

end Runs

/-! ## Two requests for one lesson -/

def lesson : AllocationKey := ⟨.generated (.seeded 0), .lessonSlot, .canonical (.seeded 1)⟩

def lessonOrder : PaymentOrder where
  invoiceId := lesson.paymentOrderId
  amountKopecks := 100
  status := .paid
  provider := .cloudpayments
  providerTransactionId := some "504"
  customerEmail := none
  metadataAccountId := none
  metadataPackageId := none
  metadataPackageSlug := none
  metadataPackageDurationMinutes := none
  teacherAccountId := .seeded 2
  grantedByTeacherId := none
  createdAt := 0
  paidAt := some 0

def lessonLedger : Db :=
  { Db.empty with
    orders := [lessonOrder]
    allocations := [⟨lesson, 100⟩] }

theorem lessonLedger_opening : Opening lessonLedger where
  good :=
    { allocationUnique := by simp [Tables.Unique, lessonLedger]
      attemptUnique := List.nodup_nil
      reversalAllocated := by simp [lessonLedger, Db.empty]
      bounded := by simp [lessonLedger, Db.empty, Db.refundedKopecks, total]
      idempotent := by simp [lessonLedger, Db.empty]
      settled := by simp [lessonLedger, Db.empty]
      bookedOnce := List.nodup_nil
      bookedSucceeded := by simp [lessonLedger, Db.empty]
      booked := fun _ => rfl
      sentOnce := List.nodup_nil
      sentRecorded := by simp [lessonLedger, Db.empty]
      owned := by simp [lessonLedger, Db.empty]
      foreign := fun strict => strict.elim
      allocated := fun strict => strict.elim
      covered := fun strict => strict.elim }
  unminted := by simp [NoOwnAttempt, lessonLedger, Db.empty]

def lessonPost (refundedKopecks : Nat) (idempotencyKey : String) : GatewayRefundRequest where
  enabled := true
  operatorAccountId := .seeded 3
  paymentOrderId := some lesson.paymentOrderId
  kind := some "lesson_slot"
  targetId := some lesson.targetId
  refundedKopecks := some (.integer refundedKopecks)
  reason := none
  idempotencyKeyHeader := some idempotencyKey

def turns (session count : Nat) : List Event :=
  List.replicate count (.run session (.accepted "tx"))

def samePost : Nat -> Request :=
  fun _ => .gateway (lessonPost 50 "key")

/-- Both pass the first lookup, the second one finds the attempt of the first, and both
call the provider with it. -/
def samePostEvents : List Event :=
  turns 0 1 ++ turns 1 1 ++ turns 0 7 ++ turns 1 6 ++ turns 0 1 ++ turns 1 1

theorem gatewayRefund_called_twice :
    ¬ ∀ (db : Db) (requests : Nat -> Request) (state : State), Opening db ->
      Reaches store (fun _ _ => True) (opening db requests) state ->
        ∀ operatorAccountId idempotencyKey,
          (callsFor state.db operatorAccountId idempotencyKey).length ≤ 1 := by
  intro once
  rcases exists_of_play store (opening lessonLedger samePost) samePostEvents
    (fun db => (callsFor db (.seeded 3) "key").length = 2) (by decide) with ⟨state, reached, twice⟩
  have most := once lessonLedger samePost state lessonLedger_opening reached (.seeded 3) "key"
  rw [twice] at most
  omega

/-- A test of `NoReplay`. -/
private def noReplay : Label -> Db -> Bool
  | .attemptLookup operatorAccountId idempotencyKey, now =>
    (now.attemptByIdempotency operatorAccountId idempotencyKey).isNone
  | _, _ => true

private theorem noReplay_sound (label : Label) (now : Db) (met : noReplay label now = true) :
    NoReplay label now := by
  cases label with
  | attemptLookup operatorAccountId idempotencyKey => exact Option.isNone_iff_eq_none.mp met
  | plain => trivial
  | refundBound allocation refundedKopecks => trivial
  | settleDedup teacherId learnerAccountId amountKopecks => trivial

/-- A second request after the first has recorded its attempt is answered from it. -/
theorem gatewayRefund_called_once_lesson :
    ∃ state, Reaches store NoReplay (opening lessonLedger samePost) state ∧
      callsFor state.db (.seeded 3) "key" ≠ [] ∧
      (callsFor state.db (.seeded 3) "key").length ≤ 1 := by
  rcases exists_of_playWhen store (permitted_of_testing noReplay_sound)
    (turns 1 1 ++ turns 0 9 ++ turns 2 1) (fun state =>
      callsFor state.db (.seeded 3) "key" ≠ [])
    (.refl (opening lessonLedger samePost)) (by decide +kernel) with ⟨state, reached, called⟩
  exact ⟨state, reached.permitted, by simpa using called,
    gatewayRefund_called_once lessonLedger_opening reached.permitted (.seeded 3) "key"⟩

/-- Then both book a reversal for that one attempt. -/
theorem reversals_booked_twice :
    ¬ ∀ (db : Db) (requests : Nat -> Request) (state : State), Opening db ->
      Reaches store (fun _ _ => True) (opening db requests) state ->
        (state.db.reversals.filterMap AllocationReversal.bookedFor).Nodup := by
  intro once
  rcases exists_of_play store (opening lessonLedger samePost)
    (samePostEvents ++ turns 0 5 ++ turns 1 5)
    (fun db => db.reversals.filterMap AllocationReversal.bookedFor = [.minted 0 0, .minted 0 0])
    (by decide) with ⟨state, reached, twice⟩
  have nodup := once lessonLedger samePost state lessonLedger_opening reached
  rw [twice] at nodup
  simp at nodup

/-- Two requests for an amount, each under a key of its own, and the worker's sweeps. -/
def ownPosts (refundedKopecks : Nat) : Nat -> Request
  | 0 => .gateway (lessonPost refundedKopecks "first")
  | 1 => .gateway (lessonPost refundedKopecks "second")
  | _ => .reconcile 30 20

def sweptEvents : List Event :=
  turns 0 9 ++ [.fail 0] ++ turns 0 2 ++ turns 2 8 ++ turns 1 14

/-- The provider accepts a refund that cannot be booked; a sweep books it, and a second refund is
booked after that. -/
theorem reversals_in_order_lesson :
    ∃ state, Reaches store NoReplay (opening lessonLedger (ownPosts 50)) state ∧
      state.db.refundedKopecks lesson = 100 ∧ (∀ row, row ∈ state.db.allocations ->
        state.db.refundedKopecks row.key ≤ row.amountKopecks) ∧
      (state.db.reversals.filterMap AllocationReversal.bookedFor).Nodup ∧
      ∀ row, row ∈ state.db.attempts -> (row.status = .succeeded <-> row.reversalId.isSome) := by
  rcases exists_of_playWhen store (permitted_of_testing noReplay_sound)
    sweptEvents (fun state => state.db.refundedKopecks lesson = 100)
    (.refl (opening lessonLedger (ownPosts 50))) (by decide +kernel) with ⟨state, reached, booked⟩
  exact ⟨state, reached.permitted, by simpa using booked,
    reversals_in_order lessonLedger_opening reached.permitted⟩

theorem ownPosts_apart (refundedKopecks : Nat) : Apart lessonLedger (ownPosts refundedKopecks) where
  fresh := by simp [lessonLedger, Db.empty]
  distinct := by
    intro first second different keyed same
    have byKey : ∀ session, (ownPosts refundedKopecks session).credential = none ∨
        session = 0 ∧ (ownPosts refundedKopecks session).credential = some (.seeded 3, "first") ∨
        session = 1 ∧ (ownPosts refundedKopecks session).credential = some (.seeded 3, "second") := by
      intro session
      match session with
      | 0 => exact Or.inr (Or.inl ⟨rfl, rfl⟩)
      | 1 => exact Or.inr (Or.inr ⟨rfl, rfl⟩)
      | _ + 2 => exact Or.inl rfl
    rcases byKey first with none_ | ⟨one, keyOne⟩ | ⟨one, keyOne⟩
    · exact keyed none_
    · rcases byKey second with none_ | ⟨two, keyTwo⟩ | ⟨two, keyTwo⟩
      · exact keyed (same.trans none_)
      · exact different (one.trans two.symm)
      · rw [keyOne, keyTwo] at same
        exact absurd same (by decide)
    · rcases byKey second with none_ | ⟨two, keyTwo⟩ | ⟨two, keyTwo⟩
      · exact keyed (same.trans none_)
      · rw [keyOne, keyTwo] at same
        exact absurd same (by decide)
      · exact different (one.trans two.symm)
  allocated := by simp [lessonLedger, Db.empty]
  covered := by simp [lessonLedger, Db.empty, exposedKopecks, possibleKopecks, manualKopecks, total]

/-- The second request checks its bound before the first one has booked anything. -/
theorem refunds_beyond_allocation :
    ¬ ∀ (db : Db) (requests : Nat -> Request) (state : State), Opening db ->
      Apart db requests -> Reaches store (fun _ _ => True) (opening db requests) state ->
        ∀ row, row ∈ state.db.allocations ->
          acceptedKopecks state.db row.key + manualKopecks state.db row.key ≤
            row.amountKopecks := by
  intro within
  rcases exists_of_play store (opening lessonLedger (ownPosts 100)) (turns 0 9 ++ turns 1 9)
    (fun db => acceptedKopecks db lesson = 200 ∧ db.allocations = [⟨lesson, 100⟩]) (by decide)
    with ⟨state, reached, accepted, allocations⟩
  have most := within lessonLedger (ownPosts 100) state lessonLedger_opening (ownPosts_apart 100) reached
    ⟨lesson, 100⟩ (by rw [allocations]; exact List.mem_singleton_self _)
  rw [accepted] at most
  exact absurd (Nat.le_trans (Nat.le_add_right 200 _) most) (by decide)

/-- A test of `RoomForOpen`. -/
private def roomForOpen : Label -> Db -> Bool
  | .refundBound key amount, now => (now.allocation? key).all fun allocation =>
      now.refundedKopecks key + amount > allocation.amountKopecks ||
        exposedKopecks now key + amount ≤ allocation.amountKopecks
  | _, _ => true

private theorem roomForOpen_sound (label : Label) (now : Db) (met : roomForOpen label now = true) :
    RoomForOpen label now := by
  cases label with
  | refundBound key amount =>
    intro allocation read fits
    rw [roomForOpen, read, Option.all_some, Bool.or_eq_true, decide_eq_true_eq,
      decide_eq_true_eq] at met
    exact met.resolve_left (Nat.not_lt.mpr fits)
  | plain => trivial
  | attemptLookup operatorAccountId idempotencyKey => trivial
  | settleDedup teacherId learnerAccountId amountKopecks => trivial

/-- Two halves are refunded at a time, and a third request would have been refused. -/
theorem refunds_within_lesson :
    ∃ state, Reaches store RoomForOpen (opening lessonLedger (ownPosts 50)) state ∧
      acceptedKopecks state.db lesson = 100 ∧ ∀ row, row ∈ state.db.allocations ->
        acceptedKopecks state.db row.key + manualKopecks state.db row.key ≤ row.amountKopecks := by
  rcases exists_of_playWhen store (permitted_of_testing roomForOpen_sound)
    (turns 0 9 ++ turns 1 9 ++ turns 0 5 ++ turns 1 5)
    (fun state => acceptedKopecks state.db lesson = 100)
    (.refl (opening lessonLedger (ownPosts 50))) (by decide +kernel) with ⟨state, reached, accepted⟩
  exact ⟨state, reached.permitted, by simpa using accepted,
    refunds_within_allocation lessonLedger_opening (ownPosts_apart 50) reached.permitted⟩

end LevelChannel.Refunds
