import LevelChannel.Schema.Rules
import LevelChannel.Refunds.Routes

namespace LevelChannel.Refunds

open ReadCommitted Tables

/-!
# The contract of the refund tables

The invariant of allocations, reversals and attempts, and what a session may
change of them.  Two rules carry the ledger.  The reversals of an allocation, and
the attempts recorded against it, only grow under the allocation's row lock.  An
attempt belongs to the session that minted it: another session may only time it
out while it is pending, or finish it once it is marked for the reconcile worker.

The invariant is that of runs in which no session takes over the attempt of
another, so it is not an invariant of all runs.
-/

/-- What a contract is about besides the tables: the idempotency keys under which
sessions record attempts, and whether what may have been paid back on
an allocation is to stay within it. -/
structure Terms where
  credentials : Nat -> Option (RowId × String)
  strict : Prop

def credential (row : RefundAttempt) : Option (RowId × String) :=
  row.idempotencyKey.map fun key => (row.operatorAccountId, key)

section Sums

variable (db : Db) (key : AllocationKey)

def bookedKopecks : Nat :=
  total (fun row => row.allocation = key && row.bookedFor.isSome)
    AllocationReversal.refundedKopecks db.reversals

def manualKopecks : Nat :=
  total (fun row => row.allocation = key && !row.bookedFor.isSome)
    AllocationReversal.refundedKopecks db.reversals

def succeededKopecks : Nat :=
  total (fun row => row.allocation = key && row.status = .succeeded)
    RefundAttempt.refundedKopecks db.attempts

def possibleKopecks : Nat :=
  total (fun row => row.allocation = key && row.status ≠ .declined)
    RefundAttempt.refundedKopecks db.attempts

def exposedKopecks : Nat :=
  possibleKopecks db key + manualKopecks db key

end Sums

/-- The invariant of the refund tables. -/
structure Good (terms : Terms) (db : Db) : Prop where
  allocationUnique : Unique PaymentAllocation.key db.allocations
  attemptUnique : Unique RefundAttempt.id db.attempts
  reversalAllocated : ∀ row, row ∈ db.reversals -> (db.allocation? row.allocation).isSome
  bounded : ∀ row, row ∈ db.allocations -> db.refundedKopecks row.key ≤ row.amountKopecks
  idempotent : ∀ first, first ∈ db.attempts -> ∀ second, second ∈ db.attempts ->
    credential first ≠ none -> credential first = credential second -> first = second
  settled : ∀ row, row ∈ db.attempts -> (row.status = .succeeded <-> row.reversalId.isSome)
  bookedOnce : (db.reversals.filterMap AllocationReversal.bookedFor).Nodup
  bookedSucceeded : ∀ row, row ∈ db.reversals -> ∀ id, row.bookedFor = some id ->
    ∃ attempt, db.attempt? id = some attempt ∧ attempt.status = .succeeded
  booked : ∀ key, bookedKopecks db key = succeededKopecks db key
  sentOnce : (db.gatewayRefunds.map GatewayRefund.attemptId).Nodup
  sentRecorded : ∀ sent, sent ∈ db.gatewayRefunds ->
    ∃ attempt, db.attempt? sent.attemptId = some attempt ∧
      attempt.operatorAccountId = sent.operatorAccountId ∧
      attempt.idempotencyKey = sent.idempotencyKey ∧
      attempt.allocation = sent.allocation ∧
      attempt.refundedKopecks = sent.amountKopecks ∧
      (sent.accepted = true -> attempt.status ≠ .declined)
  owned : ∀ row, row ∈ db.attempts -> ∀ session, row.id.minter = some session ->
    terms.credentials session = credential row
  foreign : terms.strict -> ∀ row, row ∈ db.attempts -> row.id.minter = none ->
    ∀ session, credential row ≠ none -> terms.credentials session ≠ credential row
  allocated : terms.strict -> ∀ row, row ∈ db.attempts ->
    (db.allocation? row.allocation).isSome
  covered : terms.strict -> ∀ row, row ∈ db.allocations ->
    exposedKopecks db row.key ≤ row.amountKopecks

/-- Two versions of an attempt at the same refund. -/
structure SameRequest (before after : RefundAttempt) : Prop where
  allocation : after.allocation = before.allocation
  refundedKopecks : after.refundedKopecks = before.refundedKopecks
  operatorAccountId : after.operatorAccountId = before.operatorAccountId
  idempotencyKey : after.idempotencyKey = before.idempotencyKey

theorem SameRequest.refl (row : RefundAttempt) : SameRequest row row := ⟨rfl, rfl, rfl, rfl⟩

theorem SameRequest.credential {before after : RefundAttempt} (same : SameRequest before after) :
    Refunds.credential after = Refunds.credential before := by
  rw [Refunds.credential, Refunds.credential, same.idempotencyKey, same.operatorAccountId]

/-- What a session other than its owner may make of an attempt. -/
def ForeignChange (before after : RefundAttempt) : Prop :=
  after = before ∨ (before.status = .pending ∧ after.status = .error) ∨
    before.status = .gatewaySucceededDbFailed

/-- What a session may change of the refund tables while it holds locks. -/
structure Guarantee (session : Nat) (held : List Lock) (before after : Db) : Prop where
  allocations : ∀ key row, before.allocation? key = some row ->
    after.allocation? key = some row
  reversals : ∀ key, ¬ WriteLocked held (.allocation key) ->
    after.reversals.filter (fun row => row.allocation = key) =
      before.reversals.filter fun row => row.allocation = key
  exposed : ∀ key, ¬ WriteLocked held (.allocation key) ->
    possibleKopecks after key ≤ possibleKopecks before key
  attemptsLocked : ∀ id row, before.attempt? id = some row ->
    ¬ WriteLocked held (.attempt id) -> after.attempt? id = some row
  attemptsOwned : ∀ id row, before.attempt? id = some row ->
    ∃ now, after.attempt? id = some now ∧ SameRequest row now ∧
      (id.minter = some session ∨ ForeignChange row now)
  attemptsNew : ∀ row, row ∈ after.attempts -> before.attempt? row.id = none ->
    row.id.minter = some session ∧
      ∀ owner key, credential row = some (owner, key) ->
        WriteLocked held (.attemptIdempotency owner key)
  sent : ∃ new, after.gatewayRefunds = before.gatewayRefunds ++ new ∧
    ∀ row, row ∈ new -> row.attemptId.minter = some session

def contract (terms : Terms) : Contract Db Lock where
  Good := Good terms
  Guarantee := Guarantee

theorem attempt?_ne_none {db : Db} {row : RefundAttempt} (member : row ∈ db.attempts) :
    db.attempt? row.id ≠ none := by
  intro absent
  exact get_eq_none_iff.mp absent row member rfl

/-! ## Changes that do not concern refunds -/

/-- The refund tables of two states agree. -/
structure SameRefunds (before after : Db) : Prop where
  allocations : after.allocations = before.allocations
  reversals : after.reversals = before.reversals
  attempts : after.attempts = before.attempts
  gatewayRefunds : after.gatewayRefunds = before.gatewayRefunds

namespace SameRefunds

variable {before after : Db} (same : SameRefunds before after)

include same

theorem allocation? (key : AllocationKey) : after.allocation? key = before.allocation? key := by
  rw [Db.allocation?, Db.allocation?, same.allocations]

theorem attempt? (id : RowId) : after.attempt? id = before.attempt? id := by
  rw [Db.attempt?, Db.attempt?, same.attempts]

theorem refundedKopecks (key : AllocationKey) :
    after.refundedKopecks key = before.refundedKopecks key := by
  rw [Db.refundedKopecks, Db.refundedKopecks, same.reversals]

theorem bookedKopecks (key : AllocationKey) :
    Refunds.bookedKopecks after key = Refunds.bookedKopecks before key := by
  rw [Refunds.bookedKopecks, Refunds.bookedKopecks, same.reversals]

theorem manualKopecks (key : AllocationKey) :
    Refunds.manualKopecks after key = Refunds.manualKopecks before key := by
  rw [Refunds.manualKopecks, Refunds.manualKopecks, same.reversals]

theorem succeededKopecks (key : AllocationKey) :
    Refunds.succeededKopecks after key = Refunds.succeededKopecks before key := by
  rw [Refunds.succeededKopecks, Refunds.succeededKopecks, same.attempts]

theorem possibleKopecks (key : AllocationKey) :
    Refunds.possibleKopecks after key = Refunds.possibleKopecks before key := by
  rw [Refunds.possibleKopecks, Refunds.possibleKopecks, same.attempts]

theorem exposedKopecks (key : AllocationKey) :
    Refunds.exposedKopecks after key = Refunds.exposedKopecks before key := by
  rw [Refunds.exposedKopecks, Refunds.exposedKopecks, same.possibleKopecks, same.manualKopecks]

theorem good {terms : Terms} (good : Good terms before) : Good terms after where
  allocationUnique := by simpa only [same.allocations] using good.allocationUnique
  attemptUnique := by simpa only [same.attempts] using good.attemptUnique
  reversalAllocated := by
    simpa only [same.reversals, same.allocation?] using good.reversalAllocated
  bounded := by simpa only [same.allocations, same.refundedKopecks] using good.bounded
  idempotent := by simpa only [same.attempts] using good.idempotent
  settled := by simpa only [same.attempts] using good.settled
  bookedOnce := by simpa only [same.reversals] using good.bookedOnce
  bookedSucceeded := by simpa only [same.reversals, same.attempt?] using good.bookedSucceeded
  booked := by simpa only [same.bookedKopecks, same.succeededKopecks] using good.booked
  sentOnce := by simpa only [same.gatewayRefunds] using good.sentOnce
  sentRecorded := by simpa only [same.gatewayRefunds, same.attempt?] using good.sentRecorded
  owned := by simpa only [same.attempts] using good.owned
  foreign := by simpa only [same.attempts] using good.foreign
  allocated := by simpa only [same.attempts, same.allocation?] using good.allocated
  covered := by simpa only [same.allocations, same.exposedKopecks] using good.covered

theorem guarantee (session : Nat) (held : List Lock) : Guarantee session held before after where
  allocations key row found := by rw [same.allocation?, found]
  reversals key _ := by rw [same.reversals]
  exposed key _ := Nat.le_of_eq (same.possibleKopecks key)
  attemptsLocked id row found _ := by rw [same.attempt?, found]
  attemptsOwned id row found :=
    ⟨row, by rw [same.attempt?, found], SameRequest.refl row, Or.inr (Or.inl rfl)⟩
  attemptsNew row member absent := by
    rw [same.attempts] at member
    exact absurd absent (attempt?_ne_none member)
  sent := ⟨[], by rw [same.gatewayRefunds, List.append_nil], by simp⟩

end SameRefunds

def Unrelated (write : Write) : Prop :=
  write.table ∉ [Table.allocations, .reversals, .attempts, .gatewayRefunds]

theorem sameRefunds_apply {write : Write} (unrelated : Unrelated write) (db : Db) :
    SameRefunds db (db.apply write) := by
  cases write <;> first
    | exact ⟨rfl, rfl, rfl, rfl⟩
    | exact absurd unrelated (by simp [Unrelated, Write.table])

theorem sameRefunds_applyAll {writes : List Write}
    (unrelated : ∀ write, write ∈ writes -> Unrelated write) (db : Db) :
    SameRefunds db (store.applyAll db writes) := by
  induction writes generalizing db with
  | nil => exact ⟨rfl, rfl, rfl, rfl⟩
  | cons write writes extend =>
    have first := sameRefunds_apply (unrelated write List.mem_cons_self) db
    have rest := extend (fun other member => unrelated other (List.mem_cons_of_mem _ member))
      (db.apply write)
    exact ⟨rest.allocations.trans first.allocations, rest.reversals.trans first.reversals,
      rest.attempts.trans first.attempts, rest.gatewayRefunds.trans first.gatewayRefunds⟩

theorem sameRefunds_slot (db : Db) (row : LessonSlot) : SameRefunds db (db.drift (.slot row)) := by
  simp only [Db.drift]
  split
  · exact ⟨rfl, rfl, rfl, rfl⟩
  · exact ⟨rfl, rfl, rfl, rfl⟩

theorem allocate_of_none {db : Db} {row : PaymentAllocation}
    (absent : db.allocation? row.key = none) :
    db.allocate row =
      { db with
        allocations := (Change.insert row).apply PaymentAllocation.key db.allocations } := by
  simp only [Db.allocation?] at absent
  simp [Db.allocate, absent, Change.apply]

theorem allocate_of_some {db : Db} {row old : PaymentAllocation}
    (present : db.allocation? row.key = some old) : db.allocate row = db := by
  simp only [Db.allocation?] at present
  simp [Db.allocate, present]

theorem allocation?_allocate {db : Db} (row : PaymentAllocation) {key : AllocationKey}
    {found : PaymentAllocation} (read : db.allocation? key = some found) :
    (db.allocate row).allocation? key = some found := by
  cases present : db.allocation? row.key with
  | some old => rw [allocate_of_some present, read]
  | none =>
    rw [allocate_of_none present]
    exact get_insert_of_some row read

theorem allocate_good {terms : Terms} (db : Db) (row : PaymentAllocation)
    (good : Good terms db) : Good terms (db.allocate row) := by
  cases present : db.allocation? row.key with
  | some old => rwa [allocate_of_some present]
  | none =>
    have wider : ∀ key, (db.allocation? key).isSome ->
        ((db.allocate row).allocation? key).isSome := by
      intro key listed
      rcases Option.isSome_iff_exists.mp listed with ⟨found, read⟩
      rw [allocation?_allocate row read]
      rfl
    have unreversed : ∀ reversal, reversal ∈ db.reversals ->
        reversal.allocation ≠ row.key := by
      intro reversal member same
      have listed := good.reversalAllocated reversal member
      rw [same, present] at listed
      cases listed
    rw [allocate_of_none present] at wider ⊢
    exact
      { good with
        allocationUnique := good.allocationUnique.insert present
        reversalAllocated := fun reversal member =>
          wider _ (good.reversalAllocated reversal member)
        bounded := by
          intro allocation member
          rcases (mem_insert PaymentAllocation.key).mp member with old | rfl
          · exact good.bounded allocation old
          · have nothing : db.refundedKopecks allocation.key = 0 :=
              total_eq_zero fun reversal listed => by simpa using unreversed reversal listed
            exact Nat.le_trans (Nat.le_of_eq nothing) (Nat.zero_le _)
        allocated := fun strict attempt member => wider _ (good.allocated strict attempt member)
        covered := by
          intro strict allocation member
          rcases (mem_insert PaymentAllocation.key).mp member with old | rfl
          · exact good.covered strict allocation old
          · have unattempted : ∀ attempt, attempt ∈ db.attempts ->
                attempt.allocation ≠ allocation.key := by
              intro attempt listed same
              have allocated := good.allocated strict attempt listed
              rw [same, present] at allocated
              cases allocated
            have possible : possibleKopecks db allocation.key = 0 :=
              total_eq_zero fun attempt listed => by simp [unattempted attempt listed]
            have manual : manualKopecks db allocation.key = 0 :=
              total_eq_zero fun reversal listed => by simp [unreversed reversal listed]
            have nothing : exposedKopecks db allocation.key = 0 := by
              rw [exposedKopecks, possible, manual]
            exact Nat.le_trans (Nat.le_of_eq nothing) (Nat.zero_le _) }

theorem good_drift {terms : Terms} (change : Drift) (db : Db) (good : Good terms db) :
    Good terms (db.drift change) := by
  cases change with
  | tick milliseconds =>
    have same : SameRefunds db (db.drift (.tick milliseconds)) := ⟨rfl, rfl, rfl, rfl⟩
    exact same.good good
  | order change =>
    have same : SameRefunds db (db.drift (.order change)) := ⟨rfl, rfl, rfl, rfl⟩
    exact same.good good
  | earning row =>
    have same : SameRefunds db (db.drift (.earning row)) := ⟨rfl, rfl, rfl, rfl⟩
    exact same.good good
  | catalog catalog =>
    have same : SameRefunds db (db.drift (.catalog catalog)) := ⟨rfl, rfl, rfl, rfl⟩
    exact same.good good
  | slot row => exact (sameRefunds_slot db row).good good
  | allocation row => exact allocate_good db row good

theorem steady (terms : Terms) : (contract terms).Steady store where
  drift := good_drift
  close session held db good := by
    have same : SameRefunds db (store.close session db) := ⟨rfl, rfl, rfl, rfl⟩
    exact ⟨same.good good, same.guarantee session held⟩

/-- The second state has the first one's refunds, and possibly more allocations. -/
structure Extends (before after : Db) : Prop where
  allocations : ∀ key row, before.allocation? key = some row ->
    after.allocation? key = some row
  reversals : after.reversals = before.reversals
  attempts : after.attempts = before.attempts
  gatewayRefunds : after.gatewayRefunds = before.gatewayRefunds

theorem Extends.guarantee {before after : Db} (wider : Extends before after) (session : Nat)
    (held : List Lock) : Guarantee session held before after where
  allocations := wider.allocations
  reversals key _ := by rw [wider.reversals]
  exposed key _ := by
    have same : possibleKopecks after key = possibleKopecks before key := by
      rw [possibleKopecks, possibleKopecks, wider.attempts]
    exact Nat.le_of_eq same
  attemptsLocked id row read _ := by rwa [Db.attempt?, wider.attempts]
  attemptsOwned id row read :=
    ⟨row, by rwa [Db.attempt?, wider.attempts], SameRequest.refl row, Or.inr (Or.inl rfl)⟩
  attemptsNew row member absent := by
    rw [wider.attempts] at member
    exact absurd absent (attempt?_ne_none member)
  sent := ⟨[], by rw [wider.gatewayRefunds, List.append_nil], by simp⟩

theorem allocate_extends (db : Db) (row : PaymentAllocation) : Extends db (db.allocate row) where
  allocations _ _ read := allocation?_allocate row read
  reversals := by
    rw [Db.allocate]
    split <;> rfl
  attempts := by
    rw [Db.allocate]
    split <;> rfl
  gatewayRefunds := by
    rw [Db.allocate]
    split <;> rfl

end LevelChannel.Refunds
