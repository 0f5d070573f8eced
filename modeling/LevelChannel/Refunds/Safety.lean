import LevelChannel.Refunds.Stability
import LevelChannel.Packages.Footprint

namespace LevelChannel.Refunds

open ReadCommitted Tables
open GatewayRefund (Input)

/-!
# The refund programs keep the contract

One lemma per program, from its last transaction to its first.  The gateway route
keeps the contract provided its lookup of the idempotency key finds nothing: the
attempt it finishes is then the one it has inserted.
-/

variable {terms : Terms} {permits : Label -> Db -> Prop} {session : Nat} {held : List Lock}
  {db : Db}

def SafeAnywhere (terms : Terms) (permits : Label -> Db -> Prop) (session : Nat)
    (program : Program) : Prop :=
  ∀ db, Good terms db -> (contract terms).Safe store permits session program [] [] db

theorem safeAnywhere_done (reply : Reply) : SafeAnywhere terms permits session (.done reply) :=
  fun _ _ => trivial

theorem commit_nothing_safe {next : Program} (anywhere : SafeAnywhere terms permits session next)
    (held : List Lock) (db : Db) :
    (contract terms).Safe store permits session (.commit next next) held [] db := by
  intro now _ good
  have same : SameRefunds now now := ⟨rfl, rfl, rfl, rfl⟩
  exact ⟨good, same.guarantee session held, anywhere now good, anywhere now good,
    anywhere now good⟩

theorem Guarantee.then_same {first second third : Db}
    (kept : Guarantee session held first second) (same : SameRefunds second third) :
    Guarantee session held first third where
  allocations key row read := by rw [same.allocation?, kept.allocations key row read]
  reversals key unlocked := by rw [same.reversals, kept.reversals key unlocked]
  exposed key unlocked := by
    rw [same.possibleKopecks]
    exact kept.exposed key unlocked
  attemptsLocked id row read unlocked := by
    rw [same.attempt?, kept.attemptsLocked id row read unlocked]
  attemptsOwned id row read := by
    rw [same.attempt?]
    exact kept.attemptsOwned id row read
  attemptsNew row member absent := kept.attemptsNew row (same.attempts ▸ member) absent
  sent := by
    rw [same.gatewayRefunds]
    exact kept.sent

theorem markAttempt_safe {P : Db -> Prop} {attemptId : RowId}
    {mark : RefundAttempt -> RefundAttempt} {onError next : Program}
    (stable : (contract terms).Stable store session held P) (start : P db)
    (failed : ∀ now, P now -> Good terms now ->
      (contract terms).Safe store permits session onError [] [] now)
    (anywhere : SafeAnywhere terms permits session next)
    (markable : ∀ now row, P now -> Good terms now -> now.attempt? attemptId = some row ->
      (mark row).terminalInvariants = true ->
      Markable session ((LockTarget.attempt attemptId).forNoKeyUpdate :: held) now row (mark row)) :
    (contract terms).Safe store permits session
      (Program.markAttempt attemptId mark onError (.commit next next)) held [] db := by
  refine Program.Safe.checked_clean P stable start failed ?_
  intro now holds good accepted
  cases read : now.attempt? attemptId with
  | none =>
    exact commit_nothing_safe anywhere _ now
  | some row =>
    have invariants : (mark row).terminalInvariants = true := by simpa [read] using accepted
    have kept : ∀ now, P now ∧ now.attempt? attemptId = some row -> Good terms now ->
        Markable session ((LockTarget.attempt attemptId).forNoKeyUpdate :: held) now row
          (mark row) :=
      fun now holds good => markable now row holds.1 good holds.2 invariants
    exact Contract.Safe.commit (fun now => P now ∧ now.attempt? attemptId = some row)
      ((stable.append [_]).and (stable_attempt WriteLocked.head_noKeyUpdate row)) ⟨holds, read⟩
      (fun now holds good =>
        ⟨mark_good good (kept now holds good), mark_guarantee good (kept now holds good)⟩)
      (fun now holds good => anywhere _ (mark_good good (kept now holds good)))
      (fun now _ good => anywhere now good)
      (fun now holds good => anywhere _ (mark_good good (kept now holds good)))

theorem book_safe {P : Db -> Prop} {attemptId : RowId} {reversal : AllocationReversal}
    (mark : RefundAttempt -> RefundAttempt) {rejects : Db -> Bool} {writes : Db -> List Write}
    {onError next : Program} (stable : (contract terms).Stable store session held P) (start : P db)
    (failed : ∀ now, P now -> Good terms now ->
      (contract terms).Safe store permits session onError [] [] now)
    (present : ∀ now, P now -> (now.attempt? attemptId).isSome)
    (updates : ∀ now row, now.attempt? attemptId = some row -> rejects now = false ->
      writes now = [.attempt (.replace (mark row))])
    (bookable : ∀ now row, P now -> Good terms now -> now.attempt? attemptId = some row ->
      (now.allocation? reversal.allocation).isSome ->
      Bookable session ((LockTarget.attempt attemptId).forNoKeyUpdate ::
        ((LockTarget.allocation reversal.allocation).forKeyShare :: held)) now reversal row
        (mark row))
    (lost : ∀ now row, P now -> Good terms now -> now.attempt? attemptId = some row ->
      Good terms (booked now reversal (mark row)) ->
      (contract terms).Safe store permits session onError [] [] (booked now reversal (mark row)))
    (anywhere : SafeAnywhere terms permits session next) :
    (contract terms).Safe store permits session (Program.createAllocationReversal reversal onError
        (Program.checked [(LockTarget.attempt attemptId).forNoKeyUpdate] onError rejects writes
          fun _ => .commit onError next)) held [] db := by
  refine Program.Safe.checked_clean P stable start failed ?_
  intro now holds _ accepted
  have allocated : (now.allocation? reversal.allocation).isSome := by
    simp only [Bool.or_eq_false_iff, Option.isNone_eq_false_iff] at accepted
    exact accepted.1
  rcases Option.isSome_iff_exists.mp allocated with ⟨allocation, readAllocation⟩
  refine Program.Safe.checked
    (fun now => P now ∧ now.allocation? reversal.allocation = some allocation)
    ((stable.append [_]).and (stable_allocation _ _)) ⟨holds, readAllocation⟩
    (fun now holds good => failed now holds.1 good) ?_
  intro now holds good accepted
  rcases Option.isSome_iff_exists.mp (present now holds.1) with ⟨row, read⟩
  have written : writes (store.applyAll now [.reversal reversal]) =
      [.attempt (.replace (mark row))] := updates _ row read accepted
  rw [written]
  have ok : ∀ now, (P now ∧ now.allocation? reversal.allocation = some allocation) ∧
      now.attempt? attemptId = some row -> Good terms now ->
      Bookable session ((LockTarget.attempt attemptId).forNoKeyUpdate ::
        ((LockTarget.allocation reversal.allocation).forKeyShare :: held)) now reversal row
        (mark row) :=
    fun now holds good => bookable now row holds.1.1 good holds.2 (by rw [holds.1.2]; rfl)
  exact Contract.Safe.commit
    (fun now => (P now ∧ now.allocation? reversal.allocation = some allocation) ∧
      now.attempt? attemptId = some row)
    ((((stable.append [_]).append [_]).and (stable_allocation _ _)).and
      (stable_attempt WriteLocked.head_noKeyUpdate row)) ⟨holds, read⟩
    (fun now holds good =>
      ⟨book_good good (ok now holds good), book_guarantee good (ok now holds good)⟩)
    (fun now holds good => anywhere _ (book_good good (ok now holds good)))
    (fun now holds good => failed now holds.1.1 good)
    (fun now holds good => lost now row holds.1.1 good holds.2 (book_good good (ok now holds good)))

/-! ## The gateway route -/

def requestOf (session : Nat) (input : Input) : RefundAttempt :=
  .ofPending (.minted session 0) 0 (input.pending "")

private theorem markable_own {now : Db} {row new : RefundAttempt}
    (read : now.attempt? (.minted session 0) = some row) (status : Unfinished row.status)
    (id : new.id = row.id) (request : SameRequest row new)
    (reversalId : new.reversalId = row.reversalId) (unsettled : new.status ≠ .succeeded)
    (refused : new.status = .declined ->
      OwnSent session (fun sent => sent.accepted = false) now) :
    Markable session ((LockTarget.attempt (.minted session 0)).forNoKeyUpdate :: held) now row
      new := by
  have own : new.id = .minted session 0 := id.trans (key_of_get read)
  exact
    { read := own ▸ read
      locked := own ▸ WriteLocked.head_noKeyUpdate
      request := request
      reversalId := reversalId
      unsettled := by rcases status with status | status <;> simp [status]
      stillUnsettled := unsettled
      declined := by rcases status with status | status <;> simp [status]
      refused := fun declined sent member same =>
        refused declined sent member (by rw [same, own]; rfl)
      foreign := Or.inl (by rw [own]; rfl) }

theorem phaseThreeFailed_safe {input : Input} (gatewayTxId message : String) (held : List Lock)
    (own : OwnAttempt session (requestOf session input) UnfinishedOrBooked db) :
    (contract terms).Safe store permits session
      (Program.phaseThreeFailed (.minted session 0) gatewayTxId message) held [] db := by
  refine markAttempt_safe (stable_unfinishedOrBooked session held _) own
    (fun _ _ _ => trivial) (safeAnywhere_done _) ?_
  intro now row own good read invariants
  rcases own with ⟨found, readOwn, -, status⟩
  have same : found = row := Option.some.inj (readOwn.symm.trans read)
  subst same
  have unreversed : found.reversalId = none := by
    simpa [RefundAttempt.terminalInvariants, RefundAttempt.gatewaySucceededDbFailed]
      using invariants
  have unfinished : Unfinished found.status := by
    rcases status with unfinished | succeeded
    · exact unfinished
    · have reversed := (good.settled found (mem_of_get read)).mp succeeded
      rw [unreversed] at reversed
      cases reversed
  exact markable_own read unfinished rfl ⟨rfl, rfl, rfl, rfl⟩ rfl
    (by simp [RefundAttempt.gatewaySucceededDbFailed])
    (by simp [RefundAttempt.gatewaySucceededDbFailed])

theorem bookGatewayRefund_safe {input : Input} (gatewayTxId : String)
    (own : OwnAttempt session (requestOf session input) Unfinished db) :
    (contract terms).Safe store permits session
      (Program.bookGatewayRefund session input (.minted session 0) gatewayTxId) [] [] db := by
  have stable : ∀ held, (contract terms).Stable store session held
      (OwnAttempt session (requestOf session input) Unfinished) :=
    fun held => stable_unfinished session held _
  have failed : ∀ message now, OwnAttempt session (requestOf session input) Unfinished now ->
      (contract terms).Safe store permits session
        (Program.phaseThreeFailed (.minted session 0) gatewayTxId message) [] [] now :=
    fun message now own => phaseThreeFailed_safe gatewayTxId message [] own.weaken
  refine Program.Safe.locking_clean _ (stable []) own (fun now own _ => failed _ now own) ?_
  intro now own _
  cases readAllocation : now.allocation? input.allocation with
  | none =>
    exact Contract.Safe.rollback _ (stable _) own fun now own _ => failed _ now own
  | some allocation =>
    have locked : WriteLocked ([(LockTarget.allocation input.allocation).forUpdate] ++ [])
        (.allocation input.allocation) := WriteLocked.head_update
    refine Program.Safe.query_clean _
      ((stable _).and (stable_allocation input.allocation allocation))
      ⟨own, readAllocation⟩ (fun now own _ => failed _ now own.1) ?_
    intro now own _
    by_cases exceeds : now.refundedKopecks input.allocation + input.refundedKopecks >
        allocation.amountKopecks
    · rw [if_pos exceeds]
      exact Contract.Safe.rollback _ (stable _) own.1 fun now own _ => failed _ now own
    · rw [if_neg exceeds]
      have room := Nat.not_lt.mp exceeds
      refine book_safe (fun row => row.succeeded gatewayTxId (.minted session 1))
        (((stable _).and (stable_allocation input.allocation allocation)).and
          (stable_refundedKopecks locked (now.refundedKopecks input.allocation)))
        ⟨own, rfl⟩ (fun now own _ => failed _ now own.1.1) ?_ ?_ ?_ ?_ (safeAnywhere_done _)
      · rintro now ⟨⟨⟨row, read, -⟩, -⟩, -⟩
        simp [read]
      · intro now row read _
        simp [read]
      · rintro later row ⟨⟨⟨found, readOwn, request, status⟩, readAgain⟩, sum⟩ good read allocated
        have same : found = row := Option.some.inj (readOwn.symm.trans read)
        subst same
        have id : found.id = .minted session 0 := key_of_get read
        have allocationKey : found.allocation = input.allocation := request.allocation
        have amount : found.refundedKopecks = input.refundedKopecks := request.refundedKopecks
        exact
          { read := by
              simpa only [RefundAttempt.succeeded, id] using read
            locked := by
              simp only [RefundAttempt.succeeded, id]
              exact WriteLocked.head_noKeyUpdate
            request := ⟨rfl, rfl, rfl, rfl⟩
            unsettled := by rcases status with status | status <;> simp [status]
            undeclined := by rcases status with status | status <;> simp [status]
            succeeded := rfl
            reversed := rfl
            bookedFor := by simp [RefundAttempt.succeeded, id]
            reversalAllocation := allocationKey.symm
            reversalKopecks := amount.symm
            lockedAllocation := by
              rw [allocationKey]
              exact (locked.append [_]).append [_]
            allocated := by
              rw [allocationKey]
              exact allocated
            room := by
              intro other readOther
              rw [allocationKey] at readOther ⊢
              have equal : other = allocation := Option.some.inj (readOther.symm.trans readAgain)
              rw [equal, sum, amount]
              exact room
            foreign := Or.inl (by simp [RefundAttempt.succeeded, id]) }
      · rintro later row ⟨⟨⟨found, readOwn, request, -⟩, -⟩, -⟩ _ read _
        have same : found = row := Option.some.inj (readOwn.symm.trans read)
        subst same
        have id : found.id = .minted session 0 := key_of_get read
        have still : SameRequest (requestOf session input)
            (found.succeeded gatewayTxId (.minted session 1)) :=
          ⟨request.allocation, request.refundedKopecks, request.operatorAccountId,
            request.idempotencyKey⟩
        refine phaseThreeFailed_safe gatewayTxId _ []
          ⟨found.succeeded gatewayTxId (.minted session 1), ?_, still, Or.inr rfl⟩
        have own : (found.succeeded gatewayTxId (.minted session 1)).id = .minted session 0 := id
        exact own ▸ attempt?_booked (own ▸ read)

private theorem finishMark_safe {input : Input} {mark : RefundAttempt -> RefundAttempt}
    {reply : Reply} (id : ∀ row, (mark row).id = row.id)
    (request : ∀ row, SameRequest row (mark row))
    (reversalId : ∀ row, (mark row).reversalId = row.reversalId)
    (unsettled : ∀ row, (mark row).status ≠ .succeeded)
    (own : OwnAttempt session (requestOf session input) Unfinished db)
    {fact : GatewayRefund -> Prop} (sent : OwnSent session fact db)
    (refused : ∀ row sent, (mark row).status = .declined -> fact sent -> sent.accepted = false) :
    (contract terms).Safe store permits session
      (Program.markAttempt (.minted session 0) mark (.done reply)
        (.commit (.done reply) (.done reply))) [] [] db := by
  refine markAttempt_safe
    ((stable_unfinished session [] (requestOf session input)).and (stable_ownSent session [] fact))
    ⟨own, sent⟩ (fun _ _ _ => trivial) (safeAnywhere_done reply) ?_
  rintro now row ⟨⟨found, readOwn, -, status⟩, sent⟩ _ read _
  have same : found = row := Option.some.inj (readOwn.symm.trans read)
  subst same
  refine markable_own read status (id found) (request found) (reversalId found) (unsettled found) ?_
  intro declined row member minted
  exact refused found row declined (sent row member minted)

theorem finishGatewayRefund_safe {input : Input}
    (own : OwnAttempt session (requestOf session input) Unfinished db)
    (unsent : OwnSent session (fun _ => False) db) :
    (contract terms).Safe store permits session
      (Program.finishGatewayRefund session input (.minted session 0)) [] [] db := by
  refine Contract.Safe.call
    (fun now => OwnAttempt session (requestOf session input) Unfinished now ∧
      OwnSent session (fun _ => False) now)
    ((stable_unfinished session [] _).and (stable_ownSent session [] _)) ⟨own, unsent⟩ ?_ ?_
  · rintro now ⟨⟨row, read, request, status⟩, unsent⟩ good - answer
    have sendable : ∀ accepted, Sendable session now
        { attemptId := .minted session 0
          operatorAccountId := input.operatorAccountId
          idempotencyKey := input.idempotencyKey
          allocation := input.allocation
          amountKopecks := input.refundedKopecks
          accepted := accepted } :=
      fun accepted =>
        { mine := rfl
          unsent := fun other member same => unsent other member (by rw [same]; rfl)
          recorded := ⟨row, read, request.operatorAccountId, request.idempotencyKey,
            request.allocation, request.refundedKopecks,
            by rcases status with status | status <;> simp [status]⟩ }
    have quiet : SameRefunds now now := ⟨rfl, rfl, rfl, rfl⟩
    cases answer with
    | accepted transactionId =>
      exact ⟨send_good good (sendable true), send_guarantee (sendable true)⟩
    | acceptedUnheard message =>
      exact ⟨send_good good (sendable true), send_guarantee (sendable true)⟩
    | declined message reasonCode =>
      exact ⟨send_good good (sendable false), send_guarantee (sendable false)⟩
    | failed message => exact ⟨send_good good (sendable false), send_guarantee (sendable false)⟩
    | unsent message => exact ⟨good, quiet.guarantee session []⟩
  · rintro now ⟨own, unsent⟩ good - answer
    have anything : ∀ db, OwnSent session (fun _ => True) db := fun _ _ _ _ => trivial
    have failing : ∀ message now,
        OwnAttempt session (requestOf session input) Unfinished now ->
        (contract terms).Safe store permits session
          (Program.markAttemptError (.minted session 0) message
            (.done (.refused 503 "gateway_error" message))
            (.commit (.done (.refused 503 "gateway_error" message))
              (.done (.refused 503 "gateway_error" message)))) [] [] now :=
      fun message now own => finishMark_safe (fun _ => rfl) (fun _ => ⟨rfl, rfl, rfl, rfl⟩)
        (fun _ => rfl) (fun _ => by simp [RefundAttempt.failed]) own (anything now)
        (fun _ _ declined _ => by simp [RefundAttempt.failed] at declined)
    cases answer with
    | accepted transactionId => exact bookGatewayRefund_safe transactionId own
    | acceptedUnheard message => exact failing message _ own
    | failed message => exact failing message _ own
    | unsent message => exact failing message _ own
    | declined message reasonCode =>
      refine finishMark_safe (fun _ => rfl) (fun _ => ⟨rfl, rfl, rfl, rfl⟩) (fun _ => rfl)
        (fun _ => by simp [RefundAttempt.declined]) own
        (?_ : OwnSent session (fun sent => sent.accepted = false) _) (fun _ _ _ refused => refused)
      intro sent member minted
      rcases List.mem_append.mp member with before | added
      · exact absurd minted (fun minted => unsent sent before minted)
      · rw [List.mem_singleton.mp added]

variable (terms permits) in
/-- What a run must grant the refund routes: the lookup of an idempotency key finds no attempt,
and where what may have been paid back is to stay within the allocation, a bound that lets a
refund through has room for the open attempts too. -/
structure Admissible : Prop where
  lookup : ∀ session now owner key, Good terms now -> NoOwnAttempt session now ->
    terms.credentials session = some (owner, key) -> permits (.attemptLookup owner key) now ->
    now.attemptByIdempotency owner key = none
  bound : terms.strict -> ∀ now key amount allocation, permits (.refundBound key amount) now ->
    now.allocation? key = some allocation ->
    now.refundedKopecks key + amount ≤ allocation.amountKopecks ->
    exposedKopecks now key + amount ≤ allocation.amountKopecks

private theorem attemptByIdempotency_none {owner : RowId} {key : String}
    (absent : db.attemptByIdempotency owner key = none) :
    ∀ row, row ∈ db.attempts -> credential row ≠ some (owner, key) := by
  intro row member used
  have unmatched := List.find?_eq_none.mp absent row member
  cases idempotency : row.idempotencyKey with
  | none => simp [credential, idempotency] at used
  | some found =>
    simp only [credential, idempotency, Option.map_some, Option.some.injEq, Prod.mk.injEq] at used
    simp [used.1, used.2, idempotency] at unmatched

theorem insertPendingAttempt_safe {input : Input} {allocation : PaymentAllocation}
    {transactionId : String} {clock : Nat}
    (credentials : terms.credentials session = credential (requestOf session input))
    (locked : WriteLocked held (.allocation input.allocation)) (nothing : NoOwnAttempt session db)
    (read : db.allocation? input.allocation = some allocation) (room : terms.strict ->
      exposedKopecks db input.allocation + input.refundedKopecks ≤ allocation.amountKopecks)
    {answer : Reply} : (contract terms).Safe store permits session
      (Program.insertPendingAttempt (.minted session 0) clock (input.pending transactionId)
        (.done answer)
        fun attempt _ =>
          .commit (.done answer) (Program.finishGatewayRefund session input attempt.id))
      held [] db := by
  have stableRoom : (contract terms).Stable store session held (fun now => terms.strict ->
      exposedKopecks now input.allocation + input.refundedKopecks ≤ allocation.amountKopecks) :=
    Contract.Stable.all fun _ => stable_exposedKopecks locked _ _
  refine Program.Safe.checked_clean _
    (((stable_noOwnAttempt session held).and (stable_allocation input.allocation allocation)).and
      stableRoom) ⟨⟨nothing, read⟩, room⟩ (fun _ _ _ => trivial) ?_
  rintro now ⟨⟨nothing, read⟩, room⟩ good accepted
  let row : RefundAttempt := .ofPending (.minted session 0) clock (input.pending transactionId)
  let locks : List Lock := ((LockTarget.attempt (.minted session 0)).forUpdate ::
    (input.pending transactionId).indexEntries) ++ held
  have keyed : ∀ owner key, credential row = some (owner, key) ->
      input.idempotencyKey = some key ∧ input.operatorAccountId = owner := by
    intro owner key used
    rcases Option.map_eq_some_iff.mp used with ⟨found, idempotency, pair⟩
    cases pair
    exact ⟨idempotency, rfl⟩
  have keyLocked : ∀ owner key, credential row = some (owner, key) ->
      WriteLocked locks (.attemptIdempotency owner key) := by
    intro owner key used
    rcases keyed owner key used with ⟨idempotency, rfl⟩
    exact WriteLocked.of_mem (by
      simp [locks, PendingRefund.indexEntries, GatewayRefund.Input.pending, idempotency])
  have unused : ∀ owner key, credential row = some (owner, key) ->
      ∀ other, other ∈ now.attempts -> credential other ≠ some (owner, key) := by
    intro owner key used
    rcases keyed owner key used with ⟨idempotency, rfl⟩
    have free : (now.attemptByIdempotency input.operatorAccountId key).isSome = false := by
      simpa [GatewayRefund.Input.pending, idempotency] using (Bool.or_eq_false_iff.mp accepted).2
    exact attemptByIdempotency_none (by simpa using free)
  have recordable : ∀ later, ((NoOwnAttempt session later ∧
      later.allocation? input.allocation = some allocation) ∧
      (terms.strict ->
        exposedKopecks later input.allocation + input.refundedKopecks ≤
          allocation.amountKopecks)) ∧
      (∀ owner key, credential row = some (owner, key) ->
        ∀ other, other ∈ later.attempts -> credential other ≠ some (owner, key)) ->
      Recordable terms session locks later row := by
    rintro later ⟨⟨⟨nothing, read⟩, room⟩, unused⟩
    exact
      { fresh := get_eq_none_iff.mpr fun other member same =>
          nothing other member (by rw [same]; rfl)
        mine := rfl
        pending := rfl
        unreversed := rfl
        credentials := credentials
        unused := by
          intro keyed other member
          rcases Option.ne_none_iff_exists'.mp keyed with ⟨⟨owner, key⟩, used⟩
          rw [used]
          exact unused owner key used other member
        locked := locked.append _
        keyLocked := keyLocked
        allocated := by
          have found : later.allocation? row.allocation = some allocation := read
          rw [found]
          rfl
        room := by
          intro strict other readOther
          have equal : other = allocation := Option.some.inj (readOther.symm.trans read)
          exact equal ▸ room strict }
  refine Contract.Safe.commit _
    (((((stable_noOwnAttempt session held).and (stable_allocation input.allocation allocation)).and
      stableRoom).append _).and (Contract.Stable.all fun owner => Contract.Stable.all fun key =>
        Contract.Stable.all fun used => stable_unusedCredential (keyLocked owner key used)))
    ⟨⟨⟨nothing, read⟩, room⟩, unused⟩ ?_ ?_ (fun _ _ _ => trivial) (fun _ _ _ => trivial)
  · intro later holds good
    exact ⟨record_good good (recordable later holds), record_guarantee (recordable later holds)⟩
  · intro later holds good
    have fresh := (recordable later holds).fresh
    have own : (later.apply (.attempt (.insert row))).attempt? (.minted session 0) = some row := by
      exact get_insert_self row fresh
    have unsent := ownSent_of_noOwnAttempt good holds.1.1.1
    exact finishGatewayRefund_safe ⟨row, own, ⟨rfl, rfl, rfl, rfl⟩, Or.inl rfl⟩ unsent

theorem beginGatewayRefund_safe (admissible : Admissible terms permits) {input : Input}
    (credentials : terms.credentials session = credential (requestOf session input))
    (nothing : NoOwnAttempt session db) : (contract terms).Safe store permits session
      (Program.beginGatewayRefund session input) [] [] db := by
  have unminted : ∀ held, (contract terms).Stable store session held (NoOwnAttempt session) :=
    fun held => stable_noOwnAttempt session held
  refine Program.Safe.query_clean _ (unminted []) nothing (fun _ _ _ => trivial) ?_
  intro now nothing _
  refine Program.Safe.locking_clean _ (unminted []) nothing (fun _ _ _ => trivial) ?_
  intro now nothing _
  cases readAllocation : now.allocation? input.allocation with
  | none => exact Program.Safe.refused
  | some allocation =>
    have locked : WriteLocked ([(LockTarget.allocation input.allocation).forUpdate] ++ [])
        (.allocation input.allocation) := WriteLocked.head_update
    refine Program.Safe.labelled_clean _
      ((unminted _).and (stable_allocation input.allocation allocation)) ⟨nothing, readAllocation⟩
      (fun _ _ _ => trivial) ?_
    rintro now ⟨nothing, readAllocation⟩ _ bounded
    by_cases exceeds : now.refundedKopecks input.allocation + input.refundedKopecks >
        allocation.amountKopecks
    · simp only [exceeds, if_true]
      exact Program.Safe.refused
    · simp only [exceeds, if_false]
      -- The code's bound leaves the open attempts out.
      have room : terms.strict ->
          exposedKopecks now input.allocation + input.refundedKopecks ≤
            allocation.amountKopecks := by
        intro strict
        exact admissible.bound strict now input.allocation _ allocation bounded readAllocation
          (Nat.not_lt.mp exceeds)
      have stable : (contract terms).Stable store session
          ([(LockTarget.allocation input.allocation).forUpdate] ++ [])
          (fun later => (NoOwnAttempt session later ∧
            later.allocation? input.allocation = some allocation) ∧ (terms.strict ->
            exposedKopecks later input.allocation + input.refundedKopecks ≤
              allocation.amountKopecks)) :=
        ((unminted _).and (stable_allocation input.allocation allocation)).and
          (Contract.Stable.all fun _ => stable_exposedKopecks locked _ _)
      refine Program.Safe.query_clean _ stable ⟨⟨nothing, readAllocation⟩, room⟩
        (fun _ _ _ => trivial) ?_
      intro now known _
      cases get PaymentOrder.invoiceId now.orders input.allocation.paymentOrderId with
      | none => exact Program.Safe.refused
      | some order =>
        cases transaction : order.providerTransactionId with
        | none =>
          simp only [transaction]
          exact Program.Safe.refused
        | some transactionId =>
          simp only [transaction, Program.createPendingRefundAttempt]
          cases idempotency : (input.pending transactionId).idempotencyKey with
          | none =>
            exact insertPendingAttempt_safe credentials locked known.1.1 known.1.2 known.2
          | some key =>
            refine Program.Safe.labelled_clean _ stable known (fun _ _ _ => trivial) ?_
            intro now known good looked
            have mine : terms.credentials session = some (input.operatorAccountId, key) := by
              rw [credentials]
              simp only [credential, requestOf, RefundAttempt.ofPending]
              rw [show (input.pending "").idempotencyKey = some key from idempotency]
              rfl
            have absent : now.attemptByIdempotency (input.pending transactionId).operatorAccountId
                key = none := admissible.lookup session now _ key good known.1.1 mine looked
            simp only [absent]
            exact insertPendingAttempt_safe credentials locked known.1.1 known.1.2 known.2

def GatewayRefundRequest.credential (request : GatewayRefundRequest) : Option (RowId × String) :=
  request.idempotencyKey.map fun key => (request.operatorAccountId, key)

theorem gatewayRefund_safe (admissible : Admissible terms permits) {request : GatewayRefundRequest}
    (credentials : terms.credentials session = GatewayRefundRequest.credential request)
    (nothing : NoOwnAttempt session db) :
    (contract terms).Safe store permits session (Program.gatewayRefund session request)
      [] [] db := by
  simp only [Program.gatewayRefund]
  by_cases disabled : request.enabled = false
  · rw [if_pos disabled]
    trivial
  rw [if_neg disabled]
  split
  next paymentOrderId kind targetId amount _ _ _ _ =>
    by_cases empty : kind = ""
    · rw [if_pos empty]
      trivial
    rw [if_neg empty]
    by_cases unsupported : kind ≠ "lesson_slot"
    · rw [if_pos unsupported]
      trivial
    rw [if_neg unsupported]
    rw [GatewayRefundRequest.credential] at credentials
    cases idempotency : request.idempotencyKey with
    | none => exact beginGatewayRefund_safe admissible (idempotency ▸ credentials) nothing
    | some key =>
      refine Program.Safe.query_clean _ (stable_noOwnAttempt session []) nothing
        (fun _ _ _ => trivial) ?_
      intro now nothing _
      cases now.attemptByIdempotency request.operatorAccountId key with
      | some cached => trivial
      | none => exact beginGatewayRefund_safe admissible (idempotency ▸ credentials) nothing
  next => trivial

theorem unrelated_of_packageWrite {write : Write} (package : PackageWrite write) :
    Unrelated write := by
  rcases package with table | table <;> simp [Unrelated, table]

private theorem commitReversal_safe {reversal : AllocationReversal} {onError next : Reply}
    {writes : List Write} {P : Db -> Prop} (stable : (contract terms).Stable store session held P)
    (start : P db) (package : ∀ write, write ∈ writes -> PackageWrite write)
    (reversible : ∀ now, P now -> Reversible terms held now reversal) :
    (contract terms).Safe store permits session
      (.commit (.done onError) (.done next) : Program) held ([.reversal reversal] ++ writes)
      db := by
  refine Contract.Safe.commit P stable start ?_ (fun _ _ _ => trivial) (fun _ _ _ => trivial)
    (fun _ _ _ => trivial)
  intro now holds good
  have same : SameRefunds (now.apply (.reversal reversal))
      (store.applyAll now ([.reversal reversal] ++ writes)) :=
    sameRefunds_applyAll (fun write member => unrelated_of_packageWrite (package write member)) _
  exact ⟨same.good (reverse_good good (reversible now holds)),
    (reverse_guarantee session (reversible now holds)).then_same same⟩

theorem recordManualRefund_safe (admissible : Admissible terms permits)
    (operatorAccountId : RowId) (key : AllocationKey) (amount : Nat) (reason : Option String) :
    SafeAnywhere terms permits session
      (Program.recordManualRefund session operatorAccountId key amount reason) := by
  intro db _
  refine Program.Safe.query_clean _ (Contract.Stable.const session [] True) trivial
    (fun _ _ _ => trivial) ?_
  intro now _ _
  refine Program.Safe.locking_clean _ (Contract.Stable.const session [] True) trivial
    (fun _ _ _ => trivial) ?_
  intro now _ _
  cases readAllocation : now.allocation? key with
  | none =>
    exact Program.Safe.refused
  | some allocation =>
    have locked : WriteLocked ([(LockTarget.allocation key).forUpdate] ++ [])
        (.allocation key) := WriteLocked.head_update
    refine Program.Safe.labelled_clean _ (stable_allocation key allocation) readAllocation
      (fun _ _ _ => trivial) ?_
    intro now readAllocation _ bounded
    by_cases exceeds : now.refundedKopecks key + amount > allocation.amountKopecks
    · simp only [exceeds, if_true]
      exact Program.Safe.refused
    simp only [exceeds, if_false]
    by_cases part : key.kind = .package ∧ amount ≠ allocation.amountKopecks
    · rw [if_pos part]
      exact Program.Safe.refused
    rw [if_neg part]
    have room := Nat.not_lt.mp exceeds
    have strictRoom : terms.strict ->
        exposedKopecks now key + amount ≤ allocation.amountKopecks := by
      intro strict
      exact admissible.bound strict now key amount allocation bounded readAllocation room
    have stable : (contract terms).Stable store session
        ([(LockTarget.allocation key).forUpdate] ++ [])
        (fun later => (later.allocation? key = some allocation ∧
          later.refundedKopecks key = now.refundedKopecks key) ∧
          (terms.strict -> exposedKopecks later key + amount ≤ allocation.amountKopecks)) :=
      ((stable_allocation key allocation).and (stable_refundedKopecks locked _)).and
        (Contract.Stable.all fun _ => stable_exposedKopecks locked _ _)
    let reversal : AllocationReversal :=
      ⟨.minted session 0, key, amount, operatorAccountId, reason, none⟩
    have reversible : ∀ more later, (later.allocation? key = some allocation ∧
        later.refundedKopecks key = now.refundedKopecks key) ∧
        (terms.strict -> exposedKopecks later key + amount ≤ allocation.amountKopecks) ->
        Reversible terms (more ++ ([(LockTarget.allocation key).forUpdate] ++ [])) later
          reversal := by
      rintro more later ⟨⟨read, sum⟩, strictly⟩
      exact
        { byHand := rfl
          locked := locked.append more
          allocated := by
            rw [show later.allocation? reversal.allocation = some allocation from read]
            rfl
          room := by
            intro other readOther
            have equal : other = allocation := Option.some.inj (readOther.symm.trans read)
            rw [equal, show later.refundedKopecks reversal.allocation =
              now.refundedKopecks key from sum]
            exact room
          strictRoom := by
            intro strict other readOther
            have equal : other = allocation := Option.some.inj (readOther.symm.trans read)
            rw [equal]
            exact strictly strict }
    refine Program.Safe.checked_clean _ stable ⟨⟨readAllocation, rfl⟩, strictRoom⟩
      (fun _ _ _ => trivial) ?_
    intro later known _ _
    cases key.kind with
    | lessonSlot =>
      exact commitReversal_safe (stable.append _) known (fun write member => nomatch member)
        (reversible _)
    | package =>
      refine Program.Safe.restoreAllConsumptionsForPurchase _ (stable.append _) known
        (fun _ _ _ => trivial) ?_
      intro last more writes known _ package
      refine commitReversal_safe ((stable.append _).append more) known package ?_
      intro now holds
      rw [← List.append_assoc]
      exact reversible _ now holds

theorem manualRefund_safe (admissible : Admissible terms permits) (request : ManualRefundRequest) :
    SafeAnywhere terms permits session (Program.manualRefund session request) := by
  intro db good
  simp only [Program.manualRefund]
  split
  next paymentOrderId kind targetId amount _ _ _ _ =>
    by_cases empty : kind = ""
    · rw [if_pos empty]
      trivial
    rw [if_neg empty]
    split
    · trivial
    next allocationKind _ =>
      by_cases invalid : request.refundedAtIso = some none
      · rw [if_pos invalid]
        trivial
      rw [if_neg invalid]
      refine Program.Safe.query_clean _ (Contract.Stable.const session [] True) trivial
        (fun _ _ _ => trivial) ?_
      intro now _ good
      split
      · trivial
      split
      · trivial
      exact recordManualRefund_safe admissible _ _ _ _ now good
  next => trivial

theorem reconcileGatewaySucceededDbFailed_safe (reversalId attemptId : RowId) {next : Program}
    (anywhere : SafeAnywhere terms permits session next) : SafeAnywhere terms permits session
      (Program.reconcileGatewaySucceededDbFailed reversalId attemptId next) := by
  intro db _
  have onward : ∀ P : Db -> Prop, ∀ now, P now -> Good terms now ->
      (contract terms).Safe store permits session next [] [] now :=
    fun _ now _ good => anywhere now good
  refine Program.Safe.locking_clean _ (Contract.Stable.const session [] True) trivial
    (onward _) ?_
  intro now _ _
  have locked : WriteLocked ([(LockTarget.attempt attemptId).forUpdate] ++ [])
      (.attempt attemptId) := WriteLocked.head_update
  cases stuck : (now.attempt? attemptId).filter
      fun row => row.status = .gatewaySucceededDbFailed with
  | none =>
    exact Contract.Safe.rollback _ (Contract.Stable.const session _ True) trivial (onward _)
  | some attempt =>
    have found := Option.filter_eq_some_iff.mp stuck
    have status : attempt.status = .gatewaySucceededDbFailed := by simpa using found.2
    have stable : ∀ more, (contract terms).Stable store session
        (more ++ ([(LockTarget.attempt attemptId).forUpdate] ++ []))
        (fun later => later.attempt? attemptId = some attempt) :=
      fun more => stable_attempt (locked.append more) attempt
    -- The worker's own changes: the row is the one it has locked.
    have markable : ∀ more later row new, later.attempt? attemptId = some attempt ->
        later.attempt? attemptId = some row -> new.id = row.id -> SameRequest row new ->
        new.reversalId = row.reversalId -> new.status ≠ .succeeded -> new.status ≠ .declined ->
        Markable session ((LockTarget.attempt attemptId).forNoKeyUpdate :: more) later row new := by
      intro more later row new known read id request reversal unsettled undeclined
      have same : row = attempt := Option.some.inj (read.symm.trans known)
      have own : new.id = attemptId := id.trans (key_of_get read)
      exact
        { read := own ▸ read
          locked := own ▸ WriteLocked.head_noKeyUpdate
          request := request
          reversalId := reversal
          unsettled := by simp [same, status]
          stillUnsettled := unsettled
          declined := by simp [same, status]
          refused := fun declined => absurd declined undeclined
          foreign := Or.inr (Or.inr (Or.inr (same ▸ status))) }
    refine Program.Safe.locking_clean _ (stable []) found.1 (onward _) ?_
    intro now known _
    cases readAllocation : now.allocation? attempt.allocation with
    | none =>
      refine markAttempt_safe (stable _) known (onward _) anywhere ?_
      intro later row known _ read _
      exact markable _ later row _ known read rfl ⟨rfl, rfl, rfl, rfl⟩ rfl
        (by simp [RefundAttempt.failed]) (by simp [RefundAttempt.failed])
    | some allocation =>
      have lockedAllocation : WriteLocked ([(LockTarget.allocation attempt.allocation).forUpdate] ++
          ([(LockTarget.attempt attemptId).forUpdate] ++ [])) (.allocation attempt.allocation) :=
        WriteLocked.head_update
      refine Program.Safe.query_clean _ ((stable _).and (stable_allocation _ allocation))
        ⟨known, readAllocation⟩ (onward _) ?_
      rintro now ⟨known, readAllocation⟩ _
      by_cases exceeds : now.refundedKopecks attempt.allocation + attempt.refundedKopecks >
          allocation.amountKopecks
      · simp only [exceeds, if_true]
        refine markAttempt_safe (stable _) known (onward _) anywhere ?_
        intro later row known _ read _
        have same : row = attempt := Option.some.inj (read.symm.trans known)
        exact markable _ later row _ known read rfl ⟨rfl, rfl, rfl, rfl⟩ rfl
          (by simp [same, status]) (by simp [same, status])
      · simp only [exceeds, if_false]
        refine book_safe (fun row => row.reconciled reversalId)
          (((stable _).and (stable_allocation _ allocation)).and
            (stable_refundedKopecks lockedAllocation _))
          ⟨⟨known, readAllocation⟩, rfl⟩ (onward _) ?_ ?_ ?_
          (fun _ _ _ _ _ good => anywhere _ good) anywhere
        · rintro later ⟨⟨known, -⟩, -⟩
          simp [known]
        · intro later row read _
          simp [read]
        · rintro later row ⟨⟨known, readAllocation⟩, sum⟩ _ read allocated
          have same : row = attempt := Option.some.inj (read.symm.trans known)
          subst same
          have id : row.id = attemptId := key_of_get read
          exact
            { read := by simpa only [RefundAttempt.reconciled, id] using read
              locked := by
                simp only [RefundAttempt.reconciled, id]
                exact WriteLocked.head_noKeyUpdate
              request := ⟨rfl, rfl, rfl, rfl⟩
              unsettled := by simp [status]
              undeclined := by simp [status]
              succeeded := rfl
              reversed := rfl
              bookedFor := by simp [RefundAttempt.reconciled, id]
              reversalAllocation := rfl
              reversalKopecks := rfl
              lockedAllocation := (lockedAllocation.append [_]).append [_]
              allocated := allocated
              room := by
                intro other readOther
                have equal : other = allocation :=
                  Option.some.inj (readOther.symm.trans readAllocation)
                rw [equal, sum]
                exact Nat.not_lt.mp exceeds
              foreign := Or.inr (Or.inr (Or.inr status)) }

theorem reconcilePendingTimeout_safe (attemptId : RowId) {next : Program}
    (anywhere : SafeAnywhere terms permits session next) :
    SafeAnywhere terms permits session (Program.reconcilePendingTimeout attemptId next) := by
  intro db _
  refine Program.Safe.execute_clean _ (Contract.Stable.const session [] True) trivial
    (fun now _ good => anywhere now good) ?_
  intro now _ good
  cases read : now.attempt? attemptId with
  | none => exact commit_nothing_safe anywhere _ now
  | some row =>
    by_cases pending : row.status = .pending
    · simp only [pending, if_true]
      have kept : ∀ later, later.attempt? attemptId = some row ->
          Markable session ([(LockTarget.attempt attemptId).forNoKeyUpdate] ++ []) later row
            (row.failed
              "reconcile: pending timed out; manual reconciliation required via CP dashboard") := by
        intro later read
        have id : row.id = attemptId := key_of_get read
        exact
          { read := by simpa only [RefundAttempt.failed, id] using read
            locked := by
              simp only [RefundAttempt.failed, id]
              exact WriteLocked.head_noKeyUpdate
            request := ⟨rfl, rfl, rfl, rfl⟩
            reversalId := rfl
            unsettled := by simp [pending]
            stillUnsettled := by simp [RefundAttempt.failed]
            declined := by simp [pending]
            refused := by simp [RefundAttempt.failed]
            foreign := Or.inr (Or.inr (Or.inl ⟨pending, rfl⟩)) }
      exact Contract.Safe.commit (fun later => later.attempt? attemptId = some row)
        (stable_attempt WriteLocked.head_noKeyUpdate row) read
        (fun later read good =>
          ⟨mark_good good (kept later read), mark_guarantee good (kept later read)⟩)
        (fun later read good => anywhere _ (mark_good good (kept later read)))
        (fun later _ good => anywhere later good)
        (fun later read good => anywhere _ (mark_good good (kept later read)))
    · simp only [pending, if_false]
      exact commit_nothing_safe anywhere _ now

theorem reconcileStuck_safe (attempts : List RowId) (number : Nat) {next : Program}
    (anywhere : SafeAnywhere terms permits session next) : SafeAnywhere terms permits session
      (Program.reconcileStuck session number attempts next) := by
  induction attempts generalizing number with
  | nil => exact anywhere
  | cons attemptId rest onward =>
    exact reconcileGatewaySucceededDbFailed_safe _ attemptId (onward (number + 1))

theorem reconcilePending_safe (attempts : List RowId) {next : Program}
    (anywhere : SafeAnywhere terms permits session next) :
    SafeAnywhere terms permits session (Program.reconcilePending attempts next) := by
  induction attempts with
  | nil => exact anywhere
  | cons attemptId rest onward => exact reconcilePendingTimeout_safe attemptId onward

theorem runRefundReconcile_safe (pendingTimeoutMinutes batchSize : Nat) :
    SafeAnywhere terms permits session
      (Program.runRefundReconcile session pendingTimeoutMinutes batchSize) := by
  intro db _
  refine Program.Safe.query_clean _ (Contract.Stable.const session [] True) trivial
    (fun _ _ _ => trivial) ?_
  intro now _ _
  refine Program.Safe.query_clean _ (Contract.Stable.const session [] True) trivial
    (fun _ _ _ => trivial) ?_
  intro now _ good
  exact reconcileStuck_safe _ 0 (reconcilePending_safe _ (safeAnywhere_done _)) now good

end LevelChannel.Refunds
