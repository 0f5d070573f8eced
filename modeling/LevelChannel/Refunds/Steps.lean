import LevelChannel.Refunds.Contract

namespace LevelChannel.Refunds

open ReadCommitted Tables

/-!
# What the refund code commits

Every transaction on the refund tables commits one of a few changes: it records an
attempt, moves an attempt to a status without a reversal, books a reversal together
with the status that goes with it, or records a reversal by hand.  The call of the
provider is a change of its own.  Each keeps the contract under the conditions that
the code has established by then.
-/

variable {terms : Terms} {db : Db} {session : Nat} {held : List Lock}

/-- The conditions under which a pending attempt may be inserted.  Only where
refunds of an allocation wait for each other does the new attempt need room. -/
structure Recordable (terms : Terms) (session : Nat) (held : List Lock) (db : Db)
    (row : RefundAttempt) : Prop where
  fresh : db.attempt? row.id = none
  mine : row.id.minter = some session
  pending : row.status = .pending
  unreversed : row.reversalId = none
  credentials : terms.credentials session = credential row
  unused : credential row ≠ none -> ∀ other, other ∈ db.attempts ->
    credential other ≠ credential row
  locked : WriteLocked held (.allocation row.allocation)
  keyLocked : ∀ owner key, credential row = some (owner, key) ->
    WriteLocked held (.attemptIdempotency owner key)
  allocated : (db.allocation? row.allocation).isSome
  room : terms.strict -> ∀ allocation, db.allocation? row.allocation = some allocation ->
    exposedKopecks db row.allocation + row.refundedKopecks ≤ allocation.amountKopecks

private theorem attempt?_record {row : RefundAttempt} {id : RowId} {found : RefundAttempt}
    (read : db.attempt? id = some found) :
    (db.apply (.attempt (.insert row))).attempt? id = some found :=
  get_insert_of_some row read

private theorem possibleKopecks_record {row : RefundAttempt} (pending : row.status = .pending)
    (key : AllocationKey) : possibleKopecks (db.apply (.attempt (.insert row))) key =
      possibleKopecks db key + if row.allocation = key then row.refundedKopecks else 0 := by
  rw [possibleKopecks, Db.apply, total_insert]
  simp [possibleKopecks, pending]

private theorem succeededKopecks_record {row : RefundAttempt} (pending : row.status = .pending)
    (key : AllocationKey) :
    succeededKopecks (db.apply (.attempt (.insert row))) key = succeededKopecks db key := by
  rw [succeededKopecks, Db.apply, total_insert]
  simp [succeededKopecks, pending]

theorem record_good (good : Good terms db) {row : RefundAttempt}
    (ok : Recordable terms session held db row) :
    Good terms (db.apply (.attempt (.insert row))) where
  allocationUnique := good.allocationUnique
  attemptUnique := good.attemptUnique.insert ok.fresh
  reversalAllocated := good.reversalAllocated
  bounded := good.bounded
  idempotent := by
    intro first memberFirst second memberSecond keyed same
    rcases (mem_insert RefundAttempt.id).mp memberFirst with oldFirst | rfl <;>
      rcases (mem_insert RefundAttempt.id).mp memberSecond with oldSecond | rfl
    · exact good.idempotent first oldFirst second oldSecond keyed same
    · exact absurd same (ok.unused (same ▸ keyed) first oldFirst)
    · exact absurd same.symm (ok.unused keyed second oldSecond)
    · rfl
  settled := by
    intro other member
    rcases (mem_insert RefundAttempt.id).mp member with old | rfl
    · exact good.settled other old
    · simp [ok.pending, ok.unreversed]
  bookedOnce := good.bookedOnce
  bookedSucceeded := by
    intro reversal member id booked
    rcases good.bookedSucceeded reversal member id booked with ⟨attempt, read, status⟩
    exact ⟨attempt, attempt?_record read, status⟩
  booked key := by
    rw [succeededKopecks_record ok.pending]
    exact good.booked key
  sentOnce := good.sentOnce
  sentRecorded := by
    intro sent member
    rcases good.sentRecorded sent member with ⟨attempt, read, rest⟩
    exact ⟨attempt, attempt?_record read, rest⟩
  owned := by
    intro other member minter minted
    rcases (mem_insert RefundAttempt.id).mp member with old | rfl
    · exact good.owned other old minter minted
    · have same : minter = session := Option.some.inj (minted.symm.trans ok.mine)
      exact same ▸ ok.credentials
  foreign := by
    intro strict other member seeded
    rcases (mem_insert RefundAttempt.id).mp member with old | rfl
    · exact good.foreign strict other old seeded
    · rw [ok.mine] at seeded
      cases seeded
  allocated := by
    intro strict other member
    rcases (mem_insert RefundAttempt.id).mp member with old | rfl
    · exact good.allocated strict other old
    · exact ok.allocated
  covered := by
    intro strict allocation member
    have before := good.covered strict allocation member
    have manual : manualKopecks (db.apply (.attempt (.insert row))) allocation.key =
        manualKopecks db allocation.key := rfl
    rw [exposedKopecks, possibleKopecks_record ok.pending, manual]
    by_cases same : row.allocation = allocation.key
    · have read : db.allocation? row.allocation = some allocation := by
        rw [same]
        exact get_of_mem good.allocationUnique member
      have room := ok.room strict allocation read
      rw [exposedKopecks, same] at room
      simp only [same, if_true]
      omega
    · rw [exposedKopecks] at before
      simp only [same, if_false]
      omega

theorem record_guarantee {row : RefundAttempt} (ok : Recordable terms session held db row) :
    Guarantee session held db (db.apply (.attempt (.insert row))) where
  allocations key found read := read
  reversals key _ := rfl
  exposed key unlocked := by
    have different : row.allocation ≠ key := by
      intro same
      exact unlocked (same ▸ ok.locked)
    rw [possibleKopecks_record ok.pending, if_neg different]
    exact Nat.le_refl _
  attemptsLocked id found read _ := attempt?_record read
  attemptsOwned id found read :=
    ⟨found, attempt?_record read, SameRequest.refl found, Or.inr (Or.inl rfl)⟩
  attemptsNew other member absent := by
    rcases (mem_insert RefundAttempt.id).mp member with old | rfl
    · exact absurd absent (attempt?_ne_none old)
    · exact ⟨ok.mine, ok.keyLocked⟩
  sent := ⟨[], (List.append_nil _).symm, by simp⟩

/-- The conditions under which an attempt may be replaced by one that carries the
same reversal.  A session changes an attempt of another only as the contract allows. -/
structure Markable (session : Nat) (held : List Lock) (db : Db) (old new : RefundAttempt) :
    Prop where
  read : db.attempt? new.id = some old
  locked : WriteLocked held (.attempt new.id)
  request : SameRequest old new
  reversalId : new.reversalId = old.reversalId
  unsettled : old.status ≠ .succeeded
  stillUnsettled : new.status ≠ .succeeded
  declined : old.status = .declined -> new.status = .declined
  refused : new.status = .declined -> ∀ sent, sent ∈ db.gatewayRefunds ->
    sent.attemptId = new.id -> sent.accepted = false
  foreign : new.id.minter = some session ∨ ForeignChange old new

private theorem attempt?_replace {old new : RefundAttempt} (read : db.attempt? new.id = some old)
    {id : RowId} {found : RefundAttempt} (readBefore : db.attempt? id = some found) :
    (found = old ∧ id = new.id ∧ (db.apply (.attempt (.replace new))).attempt? id = some new) ∨
      (id ≠ new.id ∧ (db.apply (.attempt (.replace new))).attempt? id = some found) := by
  by_cases same : id = new.id
  · subst same
    refine Or.inl ⟨Option.some.inj (readBefore.symm.trans read), rfl, ?_⟩
    exact get_replace_self new read
  · refine Or.inr ⟨same, ?_⟩
    exact (get_replace_of_ne new same).trans readBefore

private theorem mem_attempts_replace {new row : RefundAttempt}
    (member : row ∈ (db.apply (.attempt (.replace new))).attempts) :
    row = new ∨ row ∈ db.attempts := by
  rcases mem_replace member with same | ⟨old, -⟩
  · exact Or.inl same
  · exact Or.inr old

private theorem mem_of_attempt? {id : RowId} {found : RefundAttempt}
    (read : db.attempt? id = some found) : found ∈ db.attempts :=
  mem_of_get read

private theorem id_of_attempt? {id : RowId} {found : RefundAttempt}
    (read : db.attempt? id = some found) : found.id = id :=
  key_of_get read

private theorem idempotent_replace (good : Good terms db) {old new : RefundAttempt}
    (read : db.attempt? new.id = some old) (same : credential new = credential old) :
    ∀ first, first ∈ (db.apply (.attempt (.replace new))).attempts ->
      ∀ second, second ∈ (db.apply (.attempt (.replace new))).attempts ->
      credential first ≠ none -> credential first = credential second -> first = second := by
  intro first memberFirst second memberSecond keyed agree
  have oldMember := mem_of_attempt? read
  rcases mem_replace memberFirst with rfl | ⟨oldFirst, firstNe⟩ <;>
    rcases mem_replace memberSecond with rfl | ⟨oldSecond, secondNe⟩
  · rfl
  · have equal := good.idempotent old oldMember second oldSecond (same ▸ keyed) (same ▸ agree)
    exact absurd (equal ▸ id_of_attempt? read) secondNe
  · have equal := good.idempotent first oldFirst old oldMember keyed (agree.trans same)
    exact absurd (equal ▸ id_of_attempt? read) firstNe
  · exact good.idempotent first oldFirst second oldSecond keyed agree

private theorem succeededKopecks_mark (good : Good terms db) {old new : RefundAttempt}
    (ok : Markable session held db old new) (key : AllocationKey) :
    succeededKopecks (db.apply (.attempt (.replace new))) key = succeededKopecks db key := by
  have exchange := total_replace (fun row => row.allocation = key && row.status = .succeeded)
    RefundAttempt.refundedKopecks good.attemptUnique ok.read
  simpa [ok.unsettled, ok.stillUnsettled, succeededKopecks, Db.apply] using exchange

private theorem possibleKopecks_mark (good : Good terms db) {old new : RefundAttempt}
    (ok : Markable session held db old new) (key : AllocationKey) :
    possibleKopecks (db.apply (.attempt (.replace new))) key ≤ possibleKopecks db key := by
  have exchange := total_replace (fun row => row.allocation = key && row.status ≠ .declined)
    RefundAttempt.refundedKopecks good.attemptUnique ok.read
  simp only [ok.request.allocation, ok.request.refundedKopecks] at exchange
  simp only [possibleKopecks, Db.apply]
  by_cases was : old.status = .declined
  · simp only [was, ok.declined was] at exchange
    simp at exchange ⊢
    omega
  · by_cases same : old.allocation = key <;> by_cases now : new.status = .declined <;>
      simp [was, same, now] at exchange ⊢ <;> omega

theorem mark_good (good : Good terms db) {old new : RefundAttempt}
    (ok : Markable session held db old new) : Good terms (db.apply (.attempt (.replace new))) where
  allocationUnique := good.allocationUnique
  attemptUnique := good.attemptUnique.replace new
  reversalAllocated := good.reversalAllocated
  bounded := good.bounded
  idempotent := idempotent_replace good ok.read ok.request.credential
  settled := by
    intro row member
    rcases mem_attempts_replace member with rfl | before
    · have settled := good.settled old (mem_of_attempt? ok.read)
      rw [ok.reversalId, ← settled]
      simp [ok.unsettled, ok.stillUnsettled]
    · exact good.settled row before
  bookedOnce := good.bookedOnce
  bookedSucceeded := by
    intro reversal member id booked
    rcases good.bookedSucceeded reversal member id booked with ⟨attempt, read, status⟩
    rcases attempt?_replace ok.read read with ⟨rfl, -, -⟩ | ⟨-, after⟩
    · exact absurd status ok.unsettled
    · exact ⟨attempt, after, status⟩
  booked key := by
    rw [succeededKopecks_mark good ok]
    exact good.booked key
  sentOnce := good.sentOnce
  sentRecorded := by
    intro sent member
    rcases good.sentRecorded sent member with
      ⟨attempt, read, operator, idempotency, allocation, amount, possible⟩
    rcases attempt?_replace ok.read read with ⟨rfl, same, after⟩ | ⟨-, after⟩
    · refine ⟨new, after, ok.request.operatorAccountId.trans operator,
        ok.request.idempotencyKey.trans idempotency, ok.request.allocation.trans allocation,
        ok.request.refundedKopecks.trans amount, ?_⟩
      intro accepted declined
      rw [ok.refused declined sent member same] at accepted
      cases accepted
    · exact ⟨attempt, after, operator, idempotency, allocation, amount, possible⟩
  owned := by
    intro row member minter minted
    rcases mem_attempts_replace member with rfl | before
    · rw [ok.request.credential]
      refine good.owned old (mem_of_attempt? ok.read) minter ?_
      rw [id_of_attempt? ok.read]
      exact minted
    · exact good.owned row before minter minted
  foreign := by
    intro strict row member seeded
    rcases mem_attempts_replace member with rfl | before
    · rw [ok.request.credential]
      refine good.foreign strict old (mem_of_attempt? ok.read) ?_
      rw [id_of_attempt? ok.read]
      exact seeded
    · exact good.foreign strict row before seeded
  allocated := by
    intro strict row member
    rcases mem_attempts_replace member with rfl | before
    · rw [ok.request.allocation]
      exact good.allocated strict old (mem_of_attempt? ok.read)
    · exact good.allocated strict row before
  covered := by
    intro strict allocation member
    have before := good.covered strict allocation member
    have lower := possibleKopecks_mark good ok allocation.key
    have manual : manualKopecks (db.apply (.attempt (.replace new))) allocation.key =
        manualKopecks db allocation.key := rfl
    rw [exposedKopecks] at before ⊢
    omega

theorem mark_guarantee (good : Good terms db) {old new : RefundAttempt}
    (ok : Markable session held db old new) :
    Guarantee session held db (db.apply (.attempt (.replace new))) where
  allocations key found read := read
  reversals key _ := rfl
  exposed key _ := possibleKopecks_mark good ok key
  attemptsLocked id found read unlocked := by
    rcases attempt?_replace ok.read read with ⟨-, same, -⟩ | ⟨-, after⟩
    · exact absurd (same ▸ ok.locked) unlocked
    · exact after
  attemptsOwned id found read := by
    rcases attempt?_replace ok.read read with ⟨rfl, rfl, after⟩ | ⟨-, after⟩
    · exact ⟨new, after, ok.request, ok.foreign⟩
    · exact ⟨found, after, SameRequest.refl found, Or.inr (Or.inl rfl)⟩
  attemptsNew row member absent := by
    rcases mem_attempts_replace member with rfl | before
    · rw [ok.read] at absent
      cases absent
    · exact absurd absent (attempt?_ne_none before)
  sent := ⟨[], (List.append_nil _).symm, by simp⟩

/-! ## Booking a reversal -/

/-- The conditions under which a reversal may be booked for an attempt that has
none, together with the attempt's success. -/
structure Bookable (session : Nat) (held : List Lock) (db : Db) (reversal : AllocationReversal)
    (old new : RefundAttempt) : Prop where
  read : db.attempt? new.id = some old
  locked : WriteLocked held (.attempt new.id)
  request : SameRequest old new
  unsettled : old.status ≠ .succeeded
  undeclined : old.status ≠ .declined
  succeeded : new.status = .succeeded
  reversed : new.reversalId.isSome
  bookedFor : reversal.bookedFor = some new.id
  reversalAllocation : reversal.allocation = old.allocation
  reversalKopecks : reversal.refundedKopecks = old.refundedKopecks
  lockedAllocation : WriteLocked held (.allocation old.allocation)
  allocated : (db.allocation? old.allocation).isSome
  room : ∀ allocation, db.allocation? old.allocation = some allocation ->
    db.refundedKopecks old.allocation + old.refundedKopecks ≤ allocation.amountKopecks
  foreign : new.id.minter = some session ∨ ForeignChange old new

def booked (db : Db) (reversal : AllocationReversal) (new : RefundAttempt) : Db :=
  (db.apply (.reversal reversal)).apply (.attempt (.replace new))

theorem attempt?_booked {reversal : AllocationReversal} {old new : RefundAttempt}
    (read : db.attempt? new.id = some old) : (booked db reversal new).attempt? new.id = some new :=
  get_replace_self new read

private theorem refundedKopecks_reverse (reversal : AllocationReversal) (key : AllocationKey) :
    (db.apply (.reversal reversal)).refundedKopecks key = db.refundedKopecks key +
        if reversal.allocation = key then reversal.refundedKopecks else 0 := by
  rw [Db.refundedKopecks, Db.apply, total_append]
  by_cases same : reversal.allocation = key <;> simp [Db.refundedKopecks, total, same]

private theorem bounded_reverse (good : Good terms db) {reversal : AllocationReversal}
    (room : ∀ allocation, db.allocation? reversal.allocation = some allocation ->
      db.refundedKopecks reversal.allocation + reversal.refundedKopecks ≤
        allocation.amountKopecks) : ∀ row, row ∈ db.allocations ->
      (db.apply (.reversal reversal)).refundedKopecks row.key ≤ row.amountKopecks := by
  intro row member
  rw [refundedKopecks_reverse]
  by_cases same : reversal.allocation = row.key
  · have read : db.allocation? reversal.allocation = some row := by
      rw [same]
      exact get_of_mem good.allocationUnique member
    have enough := room row read
    rw [same] at enough
    simpa only [same, if_true] using enough
  · rw [if_neg same, Nat.add_zero]
    exact good.bounded row member

private theorem reversals_reverse (reversal : AllocationReversal) {key : AllocationKey}
    (different : reversal.allocation ≠ key) :
    (db.apply (.reversal reversal)).reversals.filter (fun row => row.allocation = key) =
      db.reversals.filter fun row => row.allocation = key := by
  simp [Db.apply, List.filter_append, different]

section Book

variable {reversal : AllocationReversal} {old new : RefundAttempt}

private theorem unbooked (good : Good terms db) (ok : Bookable session held db reversal old new) :
    new.id ∉ db.reversals.filterMap AllocationReversal.bookedFor := by
  intro listed
  rcases List.mem_filterMap.mp listed with ⟨row, member, bookedFor⟩
  rcases good.bookedSucceeded row member new.id bookedFor with ⟨attempt, read, status⟩
  have same : attempt = old := Option.some.inj (read.symm.trans ok.read)
  exact ok.unsettled (same ▸ status)

private theorem possibleKopecks_book (good : Good terms db)
    (ok : Bookable session held db reversal old new) (key : AllocationKey) :
    possibleKopecks (booked db reversal new) key = possibleKopecks db key := by
  have exchange := total_replace (fun row => row.allocation = key && row.status ≠ .declined)
    RefundAttempt.refundedKopecks good.attemptUnique ok.read
  simp only [ok.request.allocation, ok.request.refundedKopecks, ok.succeeded] at exchange
  simp only [possibleKopecks, booked, Db.apply]
  by_cases same : old.allocation = key <;> simp [ok.undeclined, same] at exchange ⊢ <;> omega

private theorem succeededKopecks_book (good : Good terms db)
    (ok : Bookable session held db reversal old new) (key : AllocationKey) :
    succeededKopecks (booked db reversal new) key =
      succeededKopecks db key + if old.allocation = key then old.refundedKopecks else 0 := by
  have exchange := total_replace (fun row => row.allocation = key && row.status = .succeeded)
    RefundAttempt.refundedKopecks good.attemptUnique ok.read
  simp only [ok.request.allocation, ok.request.refundedKopecks, ok.succeeded] at exchange
  simp only [succeededKopecks, booked, Db.apply]
  by_cases same : old.allocation = key <;> simp [ok.unsettled, same] at exchange ⊢ <;> omega

private theorem bookedKopecks_book (ok : Bookable session held db reversal old new)
    (key : AllocationKey) : bookedKopecks (booked db reversal new) key =
      bookedKopecks db key + if old.allocation = key then old.refundedKopecks else 0 := by
  simp only [bookedKopecks, booked, Db.apply, total_append]
  by_cases same : old.allocation = key <;>
    simp [total, same, ok.bookedFor, ok.reversalAllocation, ok.reversalKopecks]

private theorem manualKopecks_book (ok : Bookable session held db reversal old new)
    (key : AllocationKey) : manualKopecks (booked db reversal new) key = manualKopecks db key := by
  simp only [manualKopecks, booked, Db.apply, total_append]
  simp [total, ok.bookedFor]

theorem book_good (good : Good terms db) (ok : Bookable session held db reversal old new) :
    Good terms (booked db reversal new) where
  allocationUnique := good.allocationUnique
  attemptUnique := good.attemptUnique.replace new
  reversalAllocated := by
    intro row member
    rcases List.mem_append.mp member with before | new
    · exact good.reversalAllocated row before
    · rw [List.mem_singleton.mp new, ok.reversalAllocation]
      exact ok.allocated
  bounded := by
    apply bounded_reverse good
    rw [ok.reversalAllocation, ok.reversalKopecks]
    exact ok.room
  idempotent := idempotent_replace good ok.read ok.request.credential
  settled := by
    intro row member
    rcases mem_attempts_replace member with rfl | before
    · simp [ok.succeeded, ok.reversed]
    · exact good.settled row before
  bookedOnce := by
    simp only [booked, Db.apply, List.filterMap_append, List.filterMap_cons, List.filterMap_nil,
      ok.bookedFor]
    refine List.nodup_append.mpr ⟨good.bookedOnce, List.nodup_singleton _, ?_⟩
    rintro id listed other single rfl
    exact unbooked good ok (List.mem_singleton.mp single ▸ listed)
  bookedSucceeded := by
    intro row member id bookedFor
    rcases List.mem_append.mp member with before | added
    · rcases good.bookedSucceeded row before id bookedFor with ⟨attempt, read, status⟩
      rcases attempt?_replace ok.read read with ⟨rfl, -, -⟩ | ⟨-, after⟩
      · exact absurd status ok.unsettled
      · exact ⟨attempt, after, status⟩
    · rw [List.mem_singleton.mp added, ok.bookedFor] at bookedFor
      cases bookedFor
      exact ⟨new, get_replace_self new ok.read, ok.succeeded⟩
  booked key := by
    rw [bookedKopecks_book ok, succeededKopecks_book good ok, good.booked]
  sentOnce := good.sentOnce
  sentRecorded := by
    intro sent member
    rcases good.sentRecorded sent member with
      ⟨attempt, read, operator, idempotency, allocation, amount, possible⟩
    rcases attempt?_replace ok.read read with ⟨rfl, -, after⟩ | ⟨-, after⟩
    · refine ⟨new, after, ok.request.operatorAccountId.trans operator,
        ok.request.idempotencyKey.trans idempotency, ok.request.allocation.trans allocation,
        ok.request.refundedKopecks.trans amount, ?_⟩
      simp [ok.succeeded]
    · exact ⟨attempt, after, operator, idempotency, allocation, amount, possible⟩
  owned := by
    intro row member minter minted
    rcases mem_attempts_replace member with rfl | before
    · rw [ok.request.credential]
      refine good.owned old (mem_of_attempt? ok.read) minter ?_
      rw [id_of_attempt? ok.read]
      exact minted
    · exact good.owned row before minter minted
  foreign := by
    intro strict row member seeded
    rcases mem_attempts_replace member with rfl | before
    · rw [ok.request.credential]
      refine good.foreign strict old (mem_of_attempt? ok.read) ?_
      rw [id_of_attempt? ok.read]
      exact seeded
    · exact good.foreign strict row before seeded
  allocated := by
    intro strict row member
    rcases mem_attempts_replace member with rfl | before
    · rw [ok.request.allocation]
      exact good.allocated strict old (mem_of_attempt? ok.read)
    · exact good.allocated strict row before
  covered := by
    intro strict allocation member
    rw [exposedKopecks, possibleKopecks_book good ok, manualKopecks_book ok]
    exact good.covered strict allocation member

theorem book_guarantee (good : Good terms db) (ok : Bookable session held db reversal old new) :
    Guarantee session held db (booked db reversal new) where
  allocations key found read := read
  reversals key unlocked := by
    apply reversals_reverse
    rw [ok.reversalAllocation]
    intro same
    exact unlocked (same ▸ ok.lockedAllocation)
  exposed key _ := Nat.le_of_eq (possibleKopecks_book good ok key)
  attemptsLocked id found read unlocked := by
    rcases attempt?_replace ok.read read with ⟨-, same, -⟩ | ⟨-, after⟩
    · exact absurd (same ▸ ok.locked) unlocked
    · exact after
  attemptsOwned id found read := by
    rcases attempt?_replace ok.read read with ⟨rfl, rfl, after⟩ | ⟨-, after⟩
    · exact ⟨new, after, ok.request, ok.foreign⟩
    · exact ⟨found, after, SameRequest.refl found, Or.inr (Or.inl rfl)⟩
  attemptsNew row member absent := by
    rcases mem_attempts_replace member with rfl | before
    · rw [ok.read] at absent
      cases absent
    · exact absurd absent (attempt?_ne_none before)
  sent := ⟨[], (List.append_nil _).symm, by simp⟩

end Book

/-- The conditions under which a reversal without an attempt may be inserted. -/
structure Reversible (terms : Terms) (held : List Lock) (db : Db)
    (reversal : AllocationReversal) : Prop where
  byHand : reversal.bookedFor = none
  locked : WriteLocked held (.allocation reversal.allocation)
  allocated : (db.allocation? reversal.allocation).isSome
  room : ∀ allocation, db.allocation? reversal.allocation = some allocation ->
    db.refundedKopecks reversal.allocation + reversal.refundedKopecks ≤ allocation.amountKopecks
  strictRoom : terms.strict -> ∀ allocation,
    db.allocation? reversal.allocation = some allocation ->
    exposedKopecks db reversal.allocation + reversal.refundedKopecks ≤ allocation.amountKopecks

section Reverse

variable {reversal : AllocationReversal}

theorem reverse_good (good : Good terms db) (ok : Reversible terms held db reversal) :
    Good terms (db.apply (.reversal reversal)) where
  allocationUnique := good.allocationUnique
  attemptUnique := good.attemptUnique
  reversalAllocated := by
    intro row member
    rcases List.mem_append.mp member with before | new
    · exact good.reversalAllocated row before
    · rw [List.mem_singleton.mp new]
      exact ok.allocated
  bounded := bounded_reverse good ok.room
  idempotent := good.idempotent
  settled := good.settled
  bookedOnce := by
    simpa [Db.apply, List.filterMap_append, ok.byHand] using good.bookedOnce
  bookedSucceeded := by
    intro row member id bookedFor
    rcases List.mem_append.mp member with before | added
    · exact good.bookedSucceeded row before id bookedFor
    · rw [List.mem_singleton.mp added, ok.byHand] at bookedFor
      cases bookedFor
  booked key := by
    have unchanged : bookedKopecks (db.apply (.reversal reversal)) key = bookedKopecks db key := by
      simp only [bookedKopecks, Db.apply, total_append]
      simp [total, ok.byHand]
    rw [unchanged]
    exact good.booked key
  sentOnce := good.sentOnce
  sentRecorded := good.sentRecorded
  owned := good.owned
  foreign := good.foreign
  allocated := good.allocated
  covered := by
    intro strict allocation member
    have before := good.covered strict allocation member
    have possible : possibleKopecks (db.apply (.reversal reversal)) allocation.key =
        possibleKopecks db allocation.key := rfl
    have manual : manualKopecks (db.apply (.reversal reversal)) allocation.key =
        manualKopecks db allocation.key +
          if reversal.allocation = allocation.key then reversal.refundedKopecks else 0 := by
      simp only [manualKopecks, Db.apply, total_append]
      by_cases same : reversal.allocation = allocation.key <;> simp [total, same, ok.byHand]
    rw [exposedKopecks, possible, manual]
    by_cases same : reversal.allocation = allocation.key
    · have read : db.allocation? reversal.allocation = some allocation := by
        rw [same]
        exact get_of_mem good.allocationUnique member
      have room := ok.strictRoom strict allocation read
      rw [exposedKopecks, same] at room
      simp only [same, if_true]
      omega
    · rw [exposedKopecks] at before
      simp only [same, if_false]
      omega

theorem reverse_guarantee (session : Nat) (ok : Reversible terms held db reversal) :
    Guarantee session held db (db.apply (.reversal reversal)) where
  allocations key found read := read
  reversals key unlocked := by
    apply reversals_reverse
    intro same
    exact unlocked (same ▸ ok.locked)
  exposed key _ := Nat.le_refl _
  attemptsLocked id found read _ := read
  attemptsOwned id found read := ⟨found, read, SameRequest.refl found, Or.inr (Or.inl rfl)⟩
  attemptsNew row member absent := absurd absent (@attempt?_ne_none db row member)
  sent := ⟨[], (List.append_nil _).symm, by simp⟩

end Reverse

/-- The conditions under which the provider may be sent a refund. -/
structure Sendable (session : Nat) (db : Db) (sent : GatewayRefund) : Prop where
  mine : sent.attemptId.minter = some session
  unsent : ∀ other, other ∈ db.gatewayRefunds -> other.attemptId ≠ sent.attemptId
  recorded : ∃ attempt, db.attempt? sent.attemptId = some attempt ∧
    attempt.operatorAccountId = sent.operatorAccountId ∧
    attempt.idempotencyKey = sent.idempotencyKey ∧
    attempt.allocation = sent.allocation ∧
    attempt.refundedKopecks = sent.amountKopecks ∧
    attempt.status ≠ .declined

theorem send_good (good : Good terms db) {sent : GatewayRefund} (ok : Sendable session db sent) :
    Good terms (db.apply (.gatewayRefund sent)) :=
  { good with
    sentOnce := by
      simp only [Db.apply, List.map_append, List.map_cons, List.map_nil]
      refine List.nodup_append.mpr ⟨good.sentOnce, List.nodup_singleton _, ?_⟩
      rintro id listed other single rfl
      rcases List.mem_map.mp listed with ⟨row, member, same⟩
      exact ok.unsent row member (same.trans (List.mem_singleton.mp single))
    sentRecorded := by
      intro row member
      rcases List.mem_append.mp member with before | added
      · exact good.sentRecorded row before
      · rw [List.mem_singleton.mp added]
        rcases ok.recorded with
          ⟨attempt, read, operator, idempotency, allocation, amount, possible⟩
        exact ⟨attempt, read, operator, idempotency, allocation, amount, fun _ => possible⟩ }

theorem send_guarantee {sent : GatewayRefund} (ok : Sendable session db sent) :
    Guarantee session held db (db.apply (.gatewayRefund sent)) where
  allocations key found read := read
  reversals key _ := rfl
  exposed key _ := Nat.le_refl _
  attemptsLocked id found read _ := read
  attemptsOwned id found read := ⟨found, read, SameRequest.refl found, Or.inr (Or.inl rfl)⟩
  attemptsNew row member absent := absurd absent (@attempt?_ne_none db row member)
  sent := by
    refine ⟨[sent], rfl, ?_⟩
    intro row member
    rw [List.mem_singleton.mp member]
    exact ok.mine

end LevelChannel.Refunds
