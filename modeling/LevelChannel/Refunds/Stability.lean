import LevelChannel.Refunds.Steps

namespace LevelChannel.Refunds

open ReadCommitted Tables

/-!
# Facts that survive other sessions

What a session has read of the refund tables, and under which locks it stays true
while other sessions run.
-/

variable {terms : Terms} {session : Nat} {held : List Lock}

theorem drift_guarantee (change : Drift) (db : Db) (session : Nat) (held : List Lock) :
    Guarantee session held db (db.drift change) := by
  cases change with
  | tick milliseconds =>
    have same : SameRefunds db (db.drift (.tick milliseconds)) := ⟨rfl, rfl, rfl, rfl⟩
    exact same.guarantee session held
  | order change =>
    have same : SameRefunds db (db.drift (.order change)) := ⟨rfl, rfl, rfl, rfl⟩
    exact same.guarantee session held
  | earning row =>
    have same : SameRefunds db (db.drift (.earning row)) := ⟨rfl, rfl, rfl, rfl⟩
    exact same.guarantee session held
  | catalog catalog =>
    have same : SameRefunds db (db.drift (.catalog catalog)) := ⟨rfl, rfl, rfl, rfl⟩
    exact same.guarantee session held
  | slot row => exact (sameRefunds_slot db row).guarantee session held
  | allocation row => exact (allocate_extends db row).guarantee session held

theorem guarantee_of_disturbs {before after : Db}
    (disturbed : (contract terms).Disturbs store session held before after) :
    ∃ other theirs, other ≠ session ∧ store.Compatible held theirs ∧
      Guarantee other theirs before after := by
  rcases disturbed with ⟨-, -, ⟨change, rfl⟩ | ⟨other, theirs, different, apart, kept⟩⟩
  · refine ⟨session + 1, [], Nat.succ_ne_self session, ?_, drift_guarantee change before _ _⟩
    exact (Store.Compatible.nil_left store held).symm
  · exact ⟨other, theirs, different, apart, kept⟩

theorem stable_allocation (key : AllocationKey) (row : PaymentAllocation) :
    (contract terms).Stable store session held (fun db => db.allocation? key = some row) := by
  intro before after read disturbed
  rcases guarantee_of_disturbs disturbed with ⟨other, theirs, -, -, kept⟩
  exact kept.allocations key row read

theorem stable_attempt {id : RowId} (locked : WriteLocked held (.attempt id))
    (row : RefundAttempt) :
    (contract terms).Stable store session held (fun db => db.attempt? id = some row) := by
  intro before after read disturbed
  rcases guarantee_of_disturbs disturbed with ⟨other, theirs, -, apart, kept⟩
  exact kept.attemptsLocked id row read (locked.excludes apart)

private theorem total_eq_of_filter {first second : List AllocationReversal} {key : AllocationKey}
    (same : first.filter (fun row => row.allocation = key) =
      second.filter fun row => row.allocation = key)
    (other : AllocationReversal -> Bool) :
    total (fun row => row.allocation = key && other row) AllocationReversal.refundedKopecks first =
      total (fun row => row.allocation = key && other row)
        AllocationReversal.refundedKopecks second := by
  have filtered := congrArg (List.filter other) same
  rw [List.filter_filter, List.filter_filter] at filtered
  simp only [Bool.and_comm (other _)] at filtered
  simp only [total, filtered]

private theorem refundedKopecks_kept {other : Nat} {theirs : List Lock} {before after : Db}
    (kept : Guarantee other theirs before after) {key : AllocationKey}
    (unlocked : ¬ WriteLocked theirs (.allocation key)) :
    after.refundedKopecks key = before.refundedKopecks key := by
  simp only [Db.refundedKopecks, total, kept.reversals key unlocked]

theorem stable_refundedKopecks {key : AllocationKey} (locked : WriteLocked held (.allocation key))
    (amount : Nat) :
    (contract terms).Stable store session held (fun db => db.refundedKopecks key = amount) := by
  intro before after read disturbed
  rcases guarantee_of_disturbs disturbed with ⟨other, theirs, -, apart, kept⟩
  exact (refundedKopecks_kept kept (locked.excludes apart)).trans read

theorem stable_exposedKopecks {key : AllocationKey} (locked : WriteLocked held (.allocation key))
    (more limit : Nat) : (contract terms).Stable store session held
      (fun db => exposedKopecks db key + more ≤ limit) := by
  intro before after room disturbed
  rcases guarantee_of_disturbs disturbed with ⟨other, theirs, -, apart, kept⟩
  have unlocked := locked.excludes apart
  have possible := kept.exposed key unlocked
  have manual : manualKopecks after key = manualKopecks before key :=
    total_eq_of_filter (kept.reversals key unlocked) _
  simp only [exposedKopecks] at room ⊢
  omega

/-! ## Attempts of a session -/

def NoOwnAttempt (session : Nat) (db : Db) : Prop :=
  ∀ row, row ∈ db.attempts -> row.id.minter ≠ some session

theorem stable_noOwnAttempt (session : Nat) (held : List Lock) :
    (contract terms).Stable store session held (NoOwnAttempt session) := by
  intro before after nothing disturbed row member minted
  rcases guarantee_of_disturbs disturbed with ⟨other, theirs, different, -, kept⟩
  cases read : before.attempt? row.id with
  | none =>
    have minter := (kept.attemptsNew row member read).1
    exact different (Option.some.inj (minter.symm.trans minted))
  | some old =>
    have id : old.id = row.id := key_of_get read
    exact nothing old (mem_of_get read) (id ▸ minted)

def OwnSent (session : Nat) (fact : GatewayRefund -> Prop) (db : Db) : Prop :=
  ∀ sent, sent ∈ db.gatewayRefunds -> sent.attemptId.minter = some session -> fact sent

theorem stable_ownSent (session : Nat) (held : List Lock) (fact : GatewayRefund -> Prop) :
    (contract terms).Stable store session held (OwnSent session fact) := by
  intro before after known disturbed sent member minted
  rcases guarantee_of_disturbs disturbed with ⟨other, theirs, different, -, kept⟩
  rcases kept.sent with ⟨new, appended, minters⟩
  rw [appended] at member
  rcases List.mem_append.mp member with old | added
  · exact known sent old minted
  · exact absurd (Option.some.inj ((minters sent added).symm.trans minted)) different

theorem ownSent_of_noOwnAttempt {db : Db} (good : Good terms db)
    (nothing : NoOwnAttempt session db) : OwnSent session (fun _ => False) db := by
  intro sent member minted
  rcases good.sentRecorded sent member with ⟨attempt, read, -⟩
  have id : attempt.id = sent.attemptId := key_of_get read
  exact nothing attempt (mem_of_get read) (id ▸ minted)

def OwnAttempt (session : Nat) (request : RefundAttempt) (statuses : RefundAttemptStatus -> Prop)
    (db : Db) : Prop :=
  ∃ row, db.attempt? (.minted session 0) = some row ∧ SameRequest request row ∧
    statuses row.status

/-- The attempt has not reached the provider's answer, or has been timed out. -/
def Unfinished (status : RefundAttemptStatus) : Prop :=
  status = .pending ∨ status = .error

def UnfinishedOrBooked (status : RefundAttemptStatus) : Prop :=
  Unfinished status ∨ status = .succeeded

theorem stable_ownAttempt (session : Nat) (held : List Lock) (request : RefundAttempt)
    {statuses : RefundAttemptStatus -> Prop} (timesOut : statuses .pending -> statuses .error)
    (unmarked : ¬ statuses .gatewaySucceededDbFailed) :
    (contract terms).Stable store session held (OwnAttempt session request statuses) := by
  intro before after own disturbed
  rcases own with ⟨row, read, same, status⟩
  rcases guarantee_of_disturbs disturbed with ⟨other, theirs, different, -, kept⟩
  rcases kept.attemptsOwned _ row read with ⟨now, readAfter, still, minted | changed⟩
  · exact absurd (Option.some.inj minted) different.symm
  · have sameNow : SameRequest request now :=
      ⟨still.allocation.trans same.allocation, still.refundedKopecks.trans same.refundedKopecks,
        still.operatorAccountId.trans same.operatorAccountId,
        still.idempotencyKey.trans same.idempotencyKey⟩
    rcases changed with rfl | ⟨pending, timedOut⟩ | marked
    · exact ⟨now, readAfter, sameNow, status⟩
    · exact ⟨now, readAfter, sameNow, timedOut ▸ timesOut (pending ▸ status)⟩
    · exact absurd (marked ▸ status) unmarked

theorem stable_unfinished (session : Nat) (held : List Lock) (request : RefundAttempt) :
    (contract terms).Stable store session held (OwnAttempt session request Unfinished) :=
  stable_ownAttempt session held request (fun _ => Or.inr rfl) (by simp [Unfinished])

theorem stable_unfinishedOrBooked (session : Nat) (held : List Lock) (request : RefundAttempt) :
    (contract terms).Stable store session held (OwnAttempt session request UnfinishedOrBooked) :=
  stable_ownAttempt session held request (fun _ => Or.inl (Or.inr rfl))
    (by simp [UnfinishedOrBooked, Unfinished])

theorem OwnAttempt.weaken {request : RefundAttempt} {db : Db}
    (own : OwnAttempt session request Unfinished db) :
    OwnAttempt session request UnfinishedOrBooked db := by
  rcases own with ⟨row, read, same, status⟩
  exact ⟨row, read, same, Or.inl status⟩

theorem stable_unusedCredential {owner : RowId} {key : String}
    (locked : WriteLocked held (.attemptIdempotency owner key)) :
    (contract terms).Stable store session held
      (fun db => ∀ row, row ∈ db.attempts -> credential row ≠ some (owner, key)) := by
  intro before after unused disturbed row member used
  rcases guarantee_of_disturbs disturbed with ⟨other, theirs, -, apart, kept⟩
  cases read : before.attempt? row.id with
  | none =>
    exact locked.excludes apart ((kept.attemptsNew row member read).2 owner key used)
  | some old =>
    rcases kept.attemptsOwned row.id old read with ⟨now, readAfter, same, -⟩
    have unique : Unique RefundAttempt.id after.attempts := Good.attemptUnique disturbed.2.1
    have same_row : now = row :=
      Option.some.inj (readAfter.symm.trans (get_of_mem unique member))
    refine unused old (mem_of_get read) ?_
    rw [← same.credential, same_row]
    exact used

end LevelChannel.Refunds
