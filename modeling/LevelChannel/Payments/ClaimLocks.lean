import Mathlib.Algebra.Order.Ring.Int
import LevelChannel.Payments.Journal
import LevelChannel.ReadCommitted.Deadlock
import LevelChannel.ReadCommitted.Sessions

namespace LevelChannel.Journal

open ReadCommitted Relation

/-!
# The advisory locks of claims

Both creation functions lock the slots of a claim in the order of the body, and the body
is the caller's.  Two bodies with the same slots in opposite orders can therefore wait for
each other.  This module says for which bodies it can happen: some requests have taken
the first slots of their lists, no slot twice, and the next slot of each is among those
that another of them has taken, all around a circle.

The keys of the locks are what `hashtext` makes of the slots.  It is a function of the
database server, and what is said here holds for whatever it computes.
-/

variable (hashtext : UuidText -> Int)

/-- The key of a pay-claim lock: `hashtext('pay-claim:' || $1::text)`. -/
def payClaimKey : LockTarget -> Option Int
  | .advisory (.payClaim slotId) => some (hashtext slotId)
  | _ => none

def hashedConflict (first second : Lock) : Bool :=
  match payClaimKey hashtext first.target, payClaimKey hashtext second.target with
  | some one, some two => one = two && first.mode.conflicts second.mode
  | _, _ => first.conflict second

def hashedStore : ReadCommitted.Store Db Lock Write Drift :=
  { store with
    conflict := hashedConflict hashtext
    conflict_comm := by
      intro first second
      simp only [hashedConflict]
      cases one : payClaimKey hashtext first.target with
      | none =>
        cases payClaimKey hashtext second.target <;> exact Lock.conflict_comm first second
      | some key =>
        cases two : payClaimKey hashtext second.target with
        | none => exact Lock.conflict_comm first second
        | some other => simp only [LockMode.conflicts_comm first.mode, eq_comm (a := key)] }

def payClaimOrder : LockOrder Lock where
  rank lock := (payClaimKey hashtext lock.target).map fun _ => 0
  fresh _ _ := false

variable {hashtext}

theorem conflict_payClaim {lock taken : Lock} {key : Int}
    (asked : payClaimKey hashtext lock.target = some key)
    (clash : (hashedStore hashtext).conflict lock taken = true) :
    payClaimKey hashtext taken.target = some key := by
  simp only [hashedStore, hashedConflict, asked] at clash
  cases other : payClaimKey hashtext taken.target with
  | none =>
    simp only [other, Lock.conflict, Bool.and_eq_true, decide_eq_true_eq] at clash
    rw [clash.1, other] at asked
    cases asked
  | some two =>
    simp only [other, Bool.and_eq_true, decide_eq_true_eq] at clash
    rw [clash.1]

theorem conflict_of_key {lock taken : Lock} {key : Int}
    (asked : payClaimKey hashtext lock.target = some key)
    (other : payClaimKey hashtext taken.target = some key) (mode : taken.mode = .update) :
    (hashedStore hashtext).conflict lock taken = true := by
  simp only [hashedStore, hashedConflict, asked, other, decide_true, Bool.true_and, mode]
  cases lock.mode <;> rfl

def Apart (keys : Nat -> List Int) (taken : Nat -> Nat) : Prop :=
  ∀ first second, first ≠ second -> ∀ key,
    key ∈ (keys first).take (taken first) -> key ∉ (keys second).take (taken second)

def Blocked (keys : Nat -> List Int) (taken : Nat -> Nat) (first second : Nat) : Prop :=
  second ≠ first ∧ ∃ key, (keys first)[taken first]? = some key ∧
    key ∈ (keys second).take (taken second)

/-- The lists have first parts without a common key, and around a circle of lists the next
key of each is in the first part of the following one. -/
def Entangled (keys : Nat -> List Int) : Prop :=
  ∃ taken, Apart keys taken ∧ ∃ session, TransGen (Blocked keys taken) session session

/-! ## What a request locks -/

namespace Request

/-- What a request creates once it has passed the checks before its transaction. -/
def creates : Request -> Option CreateClaimInput
  | .createLearnerClaim input =>
    match Program.claimShape input with
    | .error _ => none
    | .ok _ =>
      if input.paymentChannel = .sbp ∧ input.paymentMethodId = none then none else some input
  | .createTeacherMarkPaid input =>
    match Program.claimShape input with
    | .error _ => none
    | .ok _ => if input.paidAt = some none then none else some input
  | _ => none

end Request

def itemKeys (hashtext : UuidText -> Int) (items : List ClaimItemInput) : List Int :=
  (items.filterMap ClaimItemInput.slotId).map hashtext

def lockedKeys (hashtext : UuidText -> Int) (request : Request) : List Int :=
  (request.creates.map fun input => itemKeys hashtext input.items).getD []

def heldKeys (hashtext : UuidText -> Int) (held : List Lock) : List Int :=
  held.filterMap fun lock => payClaimKey hashtext lock.target

/-- A session with these locks has locked the first keys of its list, latest first. -/
structure Stands (hashtext : UuidText -> Int) (keys : List Int) (held : List Lock) : Prop where
  keys : heldKeys hashtext held = (keys.take (heldKeys hashtext held).length).reverse
  mode : ∀ lock, lock ∈ held -> (payClaimKey hashtext lock.target).isSome ->
    lock.mode = .update

def MayLock (hashtext : UuidText -> Int) (keys : List Int) (held : List Lock) (lock : Lock) :
    Prop :=
  ∀ key, payClaimKey hashtext lock.target = some key ->
    Stands hashtext keys held ∧ keys[(heldKeys hashtext held).length]? = some key

abbrev InTurn (hashtext : UuidText -> Int) (keys : List Int) (held : List Lock)
    (program : Program) : Prop :=
  program.Asks (MayLock hashtext keys) held

section InTurn

variable {keys : List Int} {session : Nat} {held locks : List Lock} {next : Program}

private theorem stands_nil : Stands hashtext keys [] where
  keys := rfl
  mode _ member := absurd member List.not_mem_nil

theorem Stands.mem_iff (stands : Stands hashtext keys held) {key : Int} :
    key ∈ keys.take (heldKeys hashtext held).length <->
      ∃ lock, lock ∈ held ∧ payClaimKey hashtext lock.target = some key ∧ lock.mode = .update := by
  rw [← List.mem_reverse, ← stands.keys, heldKeys, List.mem_filterMap]
  constructor
  · rintro ⟨lock, member, same⟩
    exact ⟨lock, member, same, stands.mode lock member (by rw [same]; rfl)⟩
  · rintro ⟨lock, member, same, -⟩
    exact ⟨lock, member, same⟩

private theorem heldKeys_lock (text : UuidText) (held : List Lock) :
    heldKeys hashtext ((AdvisoryKey.payClaim text).lock :: held) =
      hashtext text :: heldKeys hashtext held := rfl

private theorem Stands.lock {text : UuidText} (stands : Stands hashtext keys held)
    (read : keys[(heldKeys hashtext held).length]? = some (hashtext text)) :
    Stands hashtext keys ((AdvisoryKey.payClaim text).lock :: held) where
  keys := by
    rw [heldKeys_lock, List.length_cons, List.take_add_one, read, List.reverse_append, ← stands.keys]
    rfl
  mode := by
    intro lock member some
    rcases List.mem_cons.mp member with rfl | old
    · rfl
    · exact stands.mode lock old some

private theorem mayLock_claim (claimId : RowId) (mode : LockMode) :
    MayLock hashtext keys held ⟨.claim claimId, mode⟩ := by
  intro key same
  cases same

private theorem inTurn_query {onError : Program} {next : Db -> Db -> Program}
    (failed : InTurn hashtext keys [] onError)
    (went : ∀ committed own, InTurn hashtext keys held (next committed own)) :
    InTurn hashtext keys held (Program.query onError next) :=
  ⟨fun _ member => absurd member List.not_mem_nil, failed, went⟩

private theorem inTurn_locking {onError : Program} {next : Db -> Program}
    (may : ∀ lock, lock ∈ locks -> MayLock hashtext keys held lock)
    (failed : InTurn hashtext keys [] onError)
    (went : ∀ own, InTurn hashtext keys (locks ++ held) (next own)) :
    InTurn hashtext keys held (Program.locking locks onError next) :=
  ⟨may, failed, fun _ own => went own⟩

private theorem inTurn_checked {rejects : Db -> Bool} {writes : Db -> List Write}
    {next : Db -> Program} (may : ∀ lock, lock ∈ locks -> MayLock hashtext keys held lock)
    (went : ∀ own, InTurn hashtext keys (locks ++ held) (next own)) :
    InTurn hashtext keys held (Program.checked locks Program.thrown rejects writes next) := by
  constructor
  · exact may
  · constructor
    · trivial
    · intro _ own
      beta_reduce
      split
      · trivial
      · exact went own

theorem inTurn_lockClaimedSlots {items : List ClaimItemInput} (stands : Stands hashtext keys held)
    (left : keys.drop (heldKeys hashtext held).length = itemKeys hashtext items)
    (went : ∀ held, InTurn hashtext keys held next) :
    InTurn hashtext keys held (Program.lockClaimedSlots next items) := by
  induction items generalizing held with
  | nil => exact went held
  | cons item rest extend =>
    unfold Program.lockClaimedSlots
    split
    · next absent =>
      apply extend stands
      rw [left, itemKeys, List.filterMap_cons, absent]
      rfl
    · next slotId present =>
      have split : keys.drop (heldKeys hashtext held).length =
          hashtext slotId :: itemKeys hashtext rest := by
        rw [left, itemKeys, List.filterMap_cons, present]
        rfl
      have read : keys[(heldKeys hashtext held).length]? = some (hashtext slotId) := by
        rw [← List.head?_drop, split]
        rfl
      apply inTurn_locking
      · intro lock member key same
        rw [List.mem_singleton.mp member] at same
        rw [← Option.some.inj same]
        exact ⟨stands, read⟩
      · trivial
      · intro own
        apply extend (stands.lock read)
        rw [heldKeys_lock, List.length_cons, ← List.drop_drop, split]
        rfl

theorem inTurn_checkPaymentMethod {initiatedBy : ClaimInitiator} {input : CreateClaimInput}
    (went : InTurn hashtext keys held next) :
    InTurn hashtext keys held (Program.checkPaymentMethod initiatedBy input next) := by
  unfold Program.checkPaymentMethod
  split
  · apply inTurn_query
    · trivial
    · intro _ own
      split
      · trivial
      · split
        · trivial
        · exact went
  · exact went

theorem inTurn_checkClaimItem {claimId : RowId} {input : CreateClaimInput}
    {item : ClaimItemInput} {next : PaymentClaimItem -> Program}
    (went : ∀ record, InTurn hashtext keys held (next record)) :
    InTurn hashtext keys held (Program.checkClaimItem claimId input item next) := by
  unfold Program.checkClaimItem
  split
  · apply inTurn_query
    · trivial
    · intro _ own
      split
      · trivial
      · split
        · trivial
        · apply inTurn_query
          · trivial
          · intro _ _
            beta_reduce
            split
            · trivial
            · apply inTurn_query
              · trivial
              · intro _ own
                split
                · trivial
                · exact went _
  · apply inTurn_query
    · trivial
    · intro _ own
      split
      · trivial
      · split
        · trivial
        · exact went _
  · trivial

theorem inTurn_checkClaimItems {claimId : RowId} {input : CreateClaimInput}
    {items : List ClaimItemInput} {next : List PaymentClaimItem -> Program}
    (went : ∀ records, InTurn hashtext keys held (next records)) :
    InTurn hashtext keys held (Program.checkClaimItems claimId input items next) := by
  induction items generalizing next with
  | nil => exact went []
  | cons item rest extend =>
    apply inTurn_checkClaimItem
    intro record
    exact extend fun records => went (record :: records)

theorem inTurn_insertClaimItems {records : List PaymentClaimItem}
    (went : ∀ held, InTurn hashtext keys held next) :
    InTurn hashtext keys held (Program.insertClaimItems next records) := by
  induction records generalizing held with
  | nil => exact went held
  | cons record rest extend =>
    apply inTurn_checked
    · intro lock member
      rw [List.mem_singleton.mp member]
      exact mayLock_claim _ _
    · intro own
      exact extend

theorem inTurn_createClaimInTx {initiatedBy : ClaimInitiator} {input : CreateClaimInput}
    {amountKopecks : Nat} : InTurn hashtext (itemKeys hashtext input.items) []
      (Program.createClaimInTx session initiatedBy input amountKopecks) := by
  unfold Program.createClaimInTx
  extract_lets claimId
  apply inTurn_query
  · trivial
  · intro begun _
    apply inTurn_lockClaimedSlots stands_nil rfl
    intro held
    apply inTurn_checkPaymentMethod
    apply inTurn_checkClaimItems
    intro records
    apply inTurn_checked
    · intro lock member
      rw [List.mem_singleton.mp member]
      exact mayLock_claim _ _
    · intro own
      apply inTurn_insertClaimItems
      intro held
      exact ⟨trivial, trivial⟩

theorem inTurn_resolveClaim {claimId : RowId} {mayResolve mayRead : PaymentClaim -> Bool}
    {resolve : Nat -> PaymentClaim -> PaymentClaim} {resolved : String} : InTurn hashtext keys held
      (Program.resolveClaim claimId mayResolve mayRead resolve resolved) := by
  unfold Program.resolveClaim
  extract_lets reached
  apply inTurn_query
  · trivial
  · intro begun _
    constructor
    · intro lock member
      rw [List.mem_singleton.mp member]
      exact mayLock_claim _ _
    · constructor
      · trivial
      · intro _ own
        constructor
        · trivial
        · split
          · trivial
          · apply inTurn_query
            · trivial
            · intro committed _
              split <;> trivial

theorem inTurn_program (request : Request) :
    InTurn hashtext (lockedKeys hashtext request) [] (request.program session) := by
  cases request with
  | createLearnerClaim input =>
    simp only [Request.program, Program.createLearnerClaim, lockedKeys, Request.creates]
    cases shape : Program.claimShape input with
    | error reason => trivial
    | ok amountKopecks =>
      dsimp only
      split
      · trivial
      · exact inTurn_createClaimInTx
  | createTeacherMarkPaid input =>
    simp only [Request.program, Program.createTeacherMarkPaid, lockedKeys, Request.creates]
    cases shape : Program.claimShape input with
    | error reason => trivial
    | ok amountKopecks =>
      cases paid : input.paidAt with
      | none => exact inTurn_createClaimInTx
      | some date =>
        cases date with
        | none => trivial
        | some paidDate =>
          apply inTurn_query
          · trivial
          · intro committed _
            beta_reduce
            rw [if_neg (by simp)]
            by_cases late : committed.clock + msPerDay < paidDate
            · rw [if_pos late]
              trivial
            · rw [if_neg late]
              exact inTurn_createClaimInTx
  | confirmClaim teacherAccountId claimId =>
    simp only [Request.program, Program.confirmClaim]
    exact inTurn_resolveClaim
  | declineClaim teacherAccountId claimId note =>
    simp only [Request.program, Program.declineClaim]
    exact inTurn_resolveClaim
  | cancelClaimByLearner learnerAccountId claimId =>
    simp only [Request.program, Program.cancelClaimByLearner]
    exact inTurn_resolveClaim

end InTurn

section Deadlocks

variable {db : Db} {requests : Nat -> Request} {state : State}

/-- How far a session has come in its list, if it waits for the next key. -/
def takenBy (hashtext : UuidText -> Int) (state : State) (session : Nat) : Nat :=
  if (state.sessions session).requested.any fun lock =>
      (payClaimKey hashtext lock.target).isSome then
    (heldKeys hashtext (state.held session)).length
  else 0

def EachInTurn (hashtext : UuidText -> Int) (requests : Nat -> Request) (state : State) : Prop :=
  state.Each fun session held _ program =>
    InTurn hashtext (lockedKeys hashtext (requests session)) held program

private theorem requested_inTurn (each : EachInTurn hashtext requests state) {session : Nat}
    {lock : Lock} (asked : lock ∈ (state.sessions session).requested) {key : Int}
    (same : payClaimKey hashtext lock.target = some key) :
    Stands hashtext (lockedKeys hashtext (requests session)) (state.held session) ∧
      (lockedKeys hashtext (requests session))[takenBy hashtext state session]? = some key ∧
      takenBy hashtext state session = (heldKeys hashtext (state.held session)).length := by
  have taken : takenBy hashtext state session =
      (heldKeys hashtext (state.held session)).length := by
    have waits : ((state.sessions session).requested.any fun lock =>
        (payClaimKey hashtext lock.target).isSome) = true :=
      List.any_eq_true.mpr ⟨lock, asked, by rw [same]; rfl⟩
    rw [takenBy, if_pos waits]
  have here := each session
  rw [Session.requested] at asked
  cases program : (state.sessions session).program with
  | statement label locks onError writes next =>
    rw [program] at asked here
    rcases here.1 lock asked key same with ⟨stands, read⟩
    rw [← taken] at read
    exact ⟨stands, read, taken⟩
  | _ => simp [program] at asked

private theorem takenBy_eq_zero_or (each : EachInTurn hashtext requests state) (session : Nat) :
    takenBy hashtext state session = 0 ∨
      Stands hashtext (lockedKeys hashtext (requests session)) (state.held session) ∧
        takenBy hashtext state session = (heldKeys hashtext (state.held session)).length := by
  cases waits : (state.sessions session).requested.any fun lock =>
      (payClaimKey hashtext lock.target).isSome with
  | false =>
    left
    rw [takenBy, waits]
    rfl
  | true =>
    right
    rcases List.any_eq_true.mp waits with ⟨lock, asked, some⟩
    rcases Option.isSome_iff_exists.mp some with ⟨key, same⟩
    rcases requested_inTurn each asked same with ⟨stands, -, taken⟩
    exact ⟨stands, taken⟩

private theorem apart_takenBy (each : EachInTurn hashtext requests state)
    (apart : ∀ first second, first ≠ second ->
      (hashedStore hashtext).Compatible (state.held first) (state.held second)) :
    Apart (fun session => lockedKeys hashtext (requests session)) (takenBy hashtext state) := by
  intro first second different key one two
  rcases takenBy_eq_zero_or each first with none | ⟨stands, taken⟩
  · rw [none] at one
    cases one
  · rcases takenBy_eq_zero_or each second with none | ⟨standsOther, takenOther⟩
    · rw [none] at two
      cases two
    · rw [taken] at one
      rw [takenOther] at two
      rcases stands.mem_iff.mp one with ⟨lock, held, same, -⟩
      rcases standsOther.mem_iff.mp two with ⟨other, heldOther, sameOther, mode⟩
      exact (apart first second different).not_mem held (conflict_of_key same sameOther mode)
        heldOther

private theorem blocked_of_waitsFor (each : EachInTurn hashtext requests state)
    {first second third : Nat}
    (waits : state.waitsFor (payClaimOrder hashtext) (hashedStore hashtext) first second = true)
    (onward : state.waitsFor (payClaimOrder hashtext) (hashedStore hashtext) second third = true) :
    Blocked (fun session => lockedKeys hashtext (requests session)) (takenBy hashtext state)
      first second := by
  rcases State.waitsFor_iff.mp waits with
    ⟨_, different, lock, asked, -, ranked, taken, held, clash⟩
  rcases State.waitsFor_iff.mp onward with ⟨_, -, next, askedNext, -, rankedNext, -⟩
  rcases Option.map_eq_some_iff.mp ranked with ⟨key, same, -⟩
  rcases Option.map_eq_some_iff.mp rankedNext with ⟨keyNext, sameNext, -⟩
  rcases requested_inTurn each asked same with ⟨-, read, -⟩
  rcases requested_inTurn each askedNext sameNext with ⟨stands, -, takenNext⟩
  refine ⟨different, key, read, ?_⟩
  have sameTaken := conflict_payClaim same clash
  rw [takenNext]
  apply stands.mem_iff.mpr
  exact ⟨taken, held, sameTaken, stands.mode taken held (by rw [sameTaken]; rfl)⟩

theorem entangled_of_deadlocked
    (reached : Reaches (hashedStore hashtext) (fun _ _ => True) (opening db requests) state)
    (stuck : state.Deadlocked (payClaimOrder hashtext) (hashedStore hashtext)) :
    Entangled fun session => lockedKeys hashtext (requests session) := by
  have each : EachInTurn hashtext requests state :=
    State.each_of_reaches (fun session => Program.Asks.inherited _)
      (fun session => inTurn_program (requests session)) reached
  refine ⟨takenBy hashtext state, apart_takenBy each (apart_of_reaches reached), ?_⟩
  rcases stuck with ⟨session, cycle⟩
  have chain : ∀ last, TransGen (fun first second =>
      state.waitsFor (payClaimOrder hashtext) (hashedStore hashtext) first second = true)
        session last ->
      (∃ next, state.waitsFor (payClaimOrder hashtext) (hashedStore hashtext) last next =
        true) ->
      TransGen (Blocked (fun session => lockedKeys hashtext (requests session))
        (takenBy hashtext state)) session last := by
    intro last path
    induction path with
    | single step =>
      rintro ⟨next, onward⟩
      exact .single (blocked_of_waitsFor each step onward)
    | tail before step extend =>
      rintro ⟨next, onward⟩
      exact .tail (extend ⟨_, step⟩) (blocked_of_waitsFor each step onward)
  rcases TransGen.head'_iff.mp cycle with ⟨next, step, -⟩
  exact ⟨session, chain session cycle ⟨next, step⟩⟩

end Deadlocks

/-! ## Entangled lists deadlock -/

section Entangling

variable {db : Db} {requests : Nat -> Request} {state : State} {session : Nat}
  {next : Program} {items : List ClaimItemInput}

private theorem mem_held {lock : Lock} :
    lock ∈ state.held session <-> (session, lock) ∈ state.granted := by
  simp only [State.held, List.mem_filterMap]
  constructor
  · rintro ⟨entry, member, same⟩
    by_cases mine : entry.1 = session
    · rw [if_pos mine, Option.some.injEq] at same
      rw [← same, ← mine]
      exact member
    · rw [if_neg mine] at same
      cases same
  · intro member
    exact ⟨(session, lock), member, if_pos rfl⟩

private theorem step_query {onError : Program} {next : Db -> Db -> Program}
    (here : state.sessions session = ⟨Program.query onError next, []⟩) :
    ∃ after, ReadCommitted.step (hashedStore hashtext) state
        (.run session (.unsent "")) = some after ∧ after.db = state.db ∧
      after.granted = state.granted ∧
      after.sessions = Function.update state.sessions session ⟨next state.db state.db, []⟩ := by
  have free : state.admits (hashedStore hashtext) session [] = true := by simp [State.admits]
  refine ⟨(State.grant state session []).resume session (next state.db state.db) [], ?_, rfl,
    rfl, rfl⟩
  simp only [ReadCommitted.step, here, Program.query, State.view, Store.applyAll_nil,
    List.append_nil]
  rw [if_pos free]

theorem exists_entered {request : Request} {input : CreateClaimInput}
    (creates : request.creates = some input)
    (here : state.sessions session = ⟨request.program session, []⟩)
    (early : input.paidAt.join.getD 0 ≤ state.db.clock) :
    ∃ next after, Reaches (hashedStore hashtext) (fun _ _ => True) state after ∧
      after.db = state.db ∧ after.granted = state.granted ∧
      after.sessions = Function.update state.sessions session
        ⟨Program.lockClaimedSlots next input.items, []⟩ := by
  have begun : ∀ initiatedBy amountKopecks, ∀ start : State, start.sessions session =
        ⟨Program.createClaimInTx session initiatedBy input amountKopecks, []⟩ ->
      ∃ next after, Reaches (hashedStore hashtext) (fun _ _ => True) start after ∧
        after.db = start.db ∧ after.granted = start.granted ∧
        after.sessions = Function.update start.sessions session
          ⟨Program.lockClaimedSlots next input.items, []⟩ := by
    intro initiatedBy amountKopecks start stands
    rcases step_query stands with ⟨after, stepped, sameDb, sameGranted, sessions⟩
    exact ⟨_, after, .one stepped, sameDb, sameGranted, sessions⟩
  cases request with
  | createLearnerClaim given =>
    simp only [Request.creates] at creates
    simp only [Request.program, Program.createLearnerClaim] at here
    cases shape : Program.claimShape given with
    | error reason => simp [shape] at creates
    | ok amountKopecks =>
      simp only [shape] at creates here
      split at creates
      · cases creates
      · next good =>
        rw [if_neg good, Option.some.inj creates] at here
        exact begun _ _ state here
  | createTeacherMarkPaid given =>
    simp only [Request.creates] at creates
    simp only [Request.program, Program.createTeacherMarkPaid] at here
    cases shape : Program.claimShape given with
    | error reason => simp [shape] at creates
    | ok amountKopecks =>
      simp only [shape] at creates here
      split at creates
      · cases creates
      · next dated =>
        have same := Option.some.inj creates
        subst same
        cases paid : given.paidAt with
        | none =>
          simp only [paid] at here
          exact begun _ _ state here
        | some date =>
          cases date with
          | none => exact absurd paid dated
          | some paidDate =>
            simp only [paid] at here
            rcases step_query here with ⟨middle, stepped, sameDb, sameGranted, sessions⟩
            rw [paid, Option.join_some, Option.getD_some] at early
            have timely : ¬ state.db.clock + msPerDay < paidDate := by omega
            have stands : middle.sessions session = ⟨Program.createClaimInTx session .teacher
                given amountKopecks, []⟩ := by
              rw [sessions, Function.update_self]
              beta_reduce
              rw [if_neg timely]
            rcases begun _ _ middle stands with ⟨next, after, reached, lastDb, lastGranted, last⟩
            have first : Reaches (hashedStore hashtext) (fun _ _ => True) state middle :=
              .one stepped
            refine ⟨next, after, first.trans reached, lastDb.trans sameDb,
              lastGranted.trans sameGranted, ?_⟩
            rw [last, sessions, Function.update_idem]
  | confirmClaim teacherAccountId claimId => cases creates
  | declineClaim teacherAccountId claimId note => cases creates
  | cancelClaimByLearner learnerAccountId claimId => cases creates

/-- A session has added locks for these keys to the lock table. -/
structure Took (hashtext : UuidText -> Int) (session : Nat) (keys : List Int)
    (before after : List (Nat × Lock)) : Prop where
  old : ∀ entry, entry ∈ before -> entry ∈ after
  mine : ∀ key, key ∈ keys -> ∃ lock, (session, lock) ∈ after ∧
    payClaimKey hashtext lock.target = some key ∧ lock.mode = .update
  only : ∀ entry, entry ∈ after -> entry ∈ before ∨ (entry.1 = session ∧
    ∃ key, key ∈ keys ∧ payClaimKey hashtext entry.2.target = some key)

private theorem Took.cons {text : UuidText} {keys : List Int} {before after : List (Nat × Lock)}
    (took : Took hashtext session keys ((session, (AdvisoryKey.payClaim text).lock) :: before)
      after) : Took hashtext session (hashtext text :: keys) before after where
  old entry member := took.old entry (List.mem_cons_of_mem _ member)
  mine key member := by
    rcases List.mem_cons.mp member with rfl | later
    · exact ⟨_, took.old _ List.mem_cons_self, rfl, rfl⟩
    · exact took.mine key later
  only entry member := by
    rcases took.only entry member with listed | ⟨mine, key, later, same⟩
    · rcases List.mem_cons.mp listed with rfl | old
      · exact Or.inr ⟨rfl, _, List.mem_cons_self, rfl⟩
      · exact Or.inl old
    · exact Or.inr ⟨mine, key, List.mem_cons_of_mem _ later, same⟩

theorem exists_locked {count : Nat} (bound : count < (itemKeys hashtext items).length)
    (here : state.sessions session = ⟨Program.lockClaimedSlots next items, []⟩)
    (free : ∀ key, key ∈ (itemKeys hashtext items).take count -> ∀ entry,
      entry ∈ state.granted -> entry.1 ≠ session ->
        payClaimKey hashtext entry.2.target ≠ some key) :
    ∃ rest after, Reaches (hashedStore hashtext) (fun _ _ => True) state after ∧
      itemKeys hashtext rest = (itemKeys hashtext items).drop count ∧ after.db = state.db ∧
      after.sessions = Function.update state.sessions session
        ⟨Program.lockClaimedSlots next rest, []⟩ ∧
      Took hashtext session ((itemKeys hashtext items).take count) state.granted after.granted := by
  induction items generalizing state count with
  | nil => cases bound
  | cons item rest extend =>
    cases present : item.slotId with
    | none =>
      have same : itemKeys hashtext (item :: rest) = itemKeys hashtext rest := by
        rw [itemKeys, List.filterMap_cons, present]
        rfl
      rw [same] at bound free ⊢
      apply extend bound _ free
      rw [here, Program.lockClaimedSlots, present]
    | some text =>
      have same : itemKeys hashtext (item :: rest) = hashtext text :: itemKeys hashtext rest := by
        rw [itemKeys, List.filterMap_cons, present]
        rfl
      rw [same] at bound free ⊢
      cases count with
      | zero =>
        refine ⟨item :: rest, state, .refl state, same, rfl, ?_, ?_⟩
        · rw [← here, Function.update_eq_self]
        · exact ⟨fun _ member => member, fun _ none => absurd none List.not_mem_nil,
            fun _ => Or.inl⟩
      | succ count =>
        have admitted : state.admits (hashedStore hashtext) session
            [(AdvisoryKey.payClaim text).lock] = true := by
          simp only [State.admits, List.all_eq_true, Bool.or_eq_true, decide_eq_true_eq,
            List.all_cons, List.all_nil, Bool.and_true, Bool.not_eq_true']
          intro entry member
          by_cases mine : entry.1 = session
          · exact Or.inl mine
          · right
            apply Bool.eq_false_iff.mpr
            intro clash
            have taken : payClaimKey hashtext entry.2.target = some (hashtext text) :=
              conflict_payClaim rfl clash
            exact free _ List.mem_cons_self entry member mine taken
        let middle : State := (state.grant session [(AdvisoryKey.payClaim text).lock]).resume
          session (Program.lockClaimedSlots next rest) []
        have stepped : ReadCommitted.step (hashedStore hashtext) state
            (.run session (.unsent "")) = some middle := by
          simp only [ReadCommitted.step, here, Program.lockClaimedSlots, present,
            Program.locking, List.append_nil]
          rw [if_pos admitted]
        have stands : middle.sessions session = ⟨Program.lockClaimedSlots next rest, []⟩ :=
          Function.update_self ..
        rcases extend (by simpa using bound) stands (by
          intro key listed entry member other
          rcases List.mem_cons.mp member with rfl | old
          · exact absurd rfl other
          · exact free key (List.mem_cons_of_mem _ listed) entry old other) with
          ⟨left, after, reached, keys, sameDb, sessions, took⟩
        have first : Reaches (hashedStore hashtext) (fun _ _ => True) state middle :=
          .one stepped
        refine ⟨left, after, first.trans reached, keys, sameDb, ?_, ?_⟩
        · rw [sessions]
          exact Function.update_idem ..
        · exact took.cons

private theorem requested_lockClaimedSlots {key : Int} {more : List Int}
    (keys : itemKeys hashtext items = key :: more) :
    ∃ text, Session.requested (⟨Program.lockClaimedSlots next items, []⟩ :
      ReadCommitted.Session Db Lock Write Label GatewayAnswer Reply) =
        [(AdvisoryKey.payClaim text).lock] ∧ hashtext text = key := by
  induction items with
  | nil => cases keys
  | cons item rest extend =>
    cases present : item.slotId with
    | none =>
      rw [itemKeys, List.filterMap_cons, present] at keys
      rw [Program.lockClaimedSlots, present]
      exact extend keys
    | some text =>
      rw [itemKeys, List.filterMap_cons, present] at keys
      refine ⟨text, ?_, (List.cons.inj keys).1⟩
      rw [Program.lockClaimedSlots, present]
      rfl

/-- These sessions have locked the first keys of their lists, and the others have not
begun. -/
structure Advanced (hashtext : UuidText -> Int) (requests : Nat -> Request)
    (taken : Nat -> Nat) (sessions : List Nat) (state : State) : Prop where
  waiting : ∀ session, session ∈ sessions -> ∃ next items,
    state.sessions session = ⟨Program.lockClaimedSlots next items, []⟩ ∧
      itemKeys hashtext items =
        (lockedKeys hashtext (requests session)).drop (taken session)
  idle : ∀ session, session ∉ sessions ->
    state.sessions session = ⟨(requests session).program session, []⟩
  mine : ∀ session, session ∈ sessions -> ∀ key,
    key ∈ (lockedKeys hashtext (requests session)).take (taken session) ->
      ∃ lock, (session, lock) ∈ state.granted ∧
        payClaimKey hashtext lock.target = some key ∧ lock.mode = .update
  only : ∀ entry, entry ∈ state.granted -> entry.1 ∈ sessions ∧ ∃ key,
    key ∈ (lockedKeys hashtext (requests entry.1)).take (taken entry.1) ∧
      payClaimKey hashtext entry.2.target = some key

def datedAt (request : Request) : Nat :=
  (request.creates.bind fun input => input.paidAt.join).getD 0

private theorem exists_bound (value : Nat -> Nat) (list : List Nat) :
    ∃ bound, ∀ index, index ∈ list -> value index ≤ bound := by
  induction list with
  | nil => exact ⟨0, fun _ none => absurd none List.not_mem_nil⟩
  | cons head rest extend =>
    rcases extend with ⟨bound, above⟩
    refine ⟨value head + bound, ?_⟩
    intro index member
    rcases List.mem_cons.mp member with rfl | later
    · exact Nat.le_add_right _ _
    · exact Nat.le_trans (above index later) (Nat.le_add_left _ _)

private theorem exists_advanced_cons {taken : Nat -> Nat} {sessions : List Nat}
    (apart : Apart (fun session => lockedKeys hashtext (requests session)) taken)
    (advanced : Advanced hashtext requests taken sessions state) (new : session ∉ sessions)
    (waits : taken session < (lockedKeys hashtext (requests session)).length)
    (early : datedAt (requests session) ≤ state.db.clock) :
    ∃ after, Reaches (hashedStore hashtext) (fun _ _ => True) state after ∧
      after.db = state.db ∧ Advanced hashtext requests taken (session :: sessions) after := by
  cases creates : (requests session).creates with
  | none =>
    rw [lockedKeys, creates] at waits
    cases waits
  | some input =>
    have keys : lockedKeys hashtext (requests session) = itemKeys hashtext input.items := by
      rw [lockedKeys, creates]
      rfl
    rw [datedAt, creates] at early
    rcases @exists_entered hashtext _ _ _ _ creates (advanced.idle session new) early with
      ⟨next, middle, entered, sameDb, sameGranted, begun⟩
    have stands : middle.sessions session =
        ⟨Program.lockClaimedSlots next input.items, []⟩ := by
      rw [begun, Function.update_self]
    have free : ∀ key, key ∈ (itemKeys hashtext input.items).take (taken session) ->
        ∀ entry, entry ∈ middle.granted -> entry.1 ≠ session ->
          payClaimKey hashtext entry.2.target ≠ some key := by
      intro key listed entry member other same
      rw [sameGranted] at member
      rcases advanced.only entry member with ⟨-, held, heldListed, sameHeld⟩
      rw [sameHeld, Option.some.injEq] at same
      rw [← keys] at listed
      exact apart session entry.1 (Ne.symm other) key listed (same ▸ heldListed)
    rw [keys] at waits
    rcases exists_locked waits stands free with
      ⟨items, after, locked, left, lastDb, last, took⟩
    rw [sameGranted, ← keys] at took
    refine ⟨after, entered.trans locked, lastDb.trans sameDb, ?_⟩
    have others : ∀ other, other ≠ session -> after.sessions other = state.sessions other := by
      intro other different
      rw [last, Function.update_of_ne different, begun, Function.update_of_ne different]
    constructor
    · intro other member
      by_cases same : other = session
      · subst other
        refine ⟨next, items, ?_, ?_⟩
        · rw [last, Function.update_self]
        · rw [left, keys]
      · rw [others other same]
        exact advanced.waiting other (List.mem_of_ne_of_mem same member)
    · intro other absent
      rw [List.mem_cons, not_or] at absent
      rw [others other absent.1]
      exact advanced.idle other absent.2
    · intro other member key listed
      by_cases same : other = session
      · subst other
        exact took.mine key listed
      · rcases advanced.mine other (List.mem_of_ne_of_mem same member) key listed with
          ⟨lock, held, sameKey, mode⟩
        exact ⟨lock, took.old _ held, sameKey, mode⟩
    · intro entry member
      rcases took.only entry member with old | ⟨mine, key, listed, same⟩
      · rcases advanced.only entry old with ⟨known, holds⟩
        exact ⟨List.mem_cons_of_mem _ known, holds⟩
      · rw [mine]
        exact ⟨List.mem_cons_self, key, listed, same⟩

theorem exists_advanced {taken : Nat -> Nat} (db : Db)
    (apart : Apart (fun session => lockedKeys hashtext (requests session)) taken)
    (sessions : List Nat) (waits : ∀ session, session ∈ sessions ->
      taken session < (lockedKeys hashtext (requests session)).length) :
    ∃ state, Reaches (hashedStore hashtext) (fun _ _ => True) (opening db requests) state ∧
      Advanced hashtext requests taken sessions state := by
  rcases exists_bound (fun session => datedAt (requests session)) sessions with ⟨late, above⟩
  have some : ∀ part, (∀ session, session ∈ part -> session ∈ sessions) ->
      ∃ state, Reaches (hashedStore hashtext) (fun _ _ => True) (opening db requests)
        state ∧ late ≤ state.db.clock ∧ Advanced hashtext requests taken part state := by
    intro part
    induction part with
    | nil =>
      intro _
      have ticked : ReadCommitted.step (hashedStore hashtext) (opening db requests)
          (.drift (.tick late)) =
            some { opening db requests with db := db.drift (.tick late) } := rfl
      refine ⟨_, .one ticked, Nat.le_add_left _ _, ?_⟩
      exact ⟨fun _ none => absurd none List.not_mem_nil, fun _ _ => rfl,
        fun _ none => absurd none List.not_mem_nil, fun _ none => absurd none List.not_mem_nil⟩
    | cons session rest extend =>
      intro within
      rcases extend fun other member => within other (List.mem_cons_of_mem _ member) with
        ⟨state, reached, clock, advanced⟩
      by_cases old : session ∈ rest
      · have same : ∀ other, other ∈ session :: rest <-> other ∈ rest := by
          intro other
          constructor
          · intro member
            rcases List.mem_cons.mp member with rfl | later
            · exact old
            · exact later
          · exact List.mem_cons_of_mem session
        refine ⟨state, reached, clock, ?_⟩
        constructor
        · intro other member
          exact advanced.waiting other ((same other).mp member)
        · intro other absent
          exact advanced.idle other fun member => absent ((same other).mpr member)
        · intro other member
          exact advanced.mine other ((same other).mp member)
        · intro entry member
          rcases advanced.only entry member with ⟨known, holds⟩
          exact ⟨(same _).mpr known, holds⟩
      · have here := within session List.mem_cons_self
        rcases exists_advanced_cons apart advanced old (waits session here)
            (Nat.le_trans (above session here) clock) with ⟨after, onward, sameDb, done⟩
        exact ⟨after, reached.trans onward, sameDb ▸ clock, done⟩
  rcases some sessions fun _ member => member with ⟨state, reached, -, advanced⟩
  exact ⟨state, reached, advanced⟩

theorem exists_deadlocked (db : Db)
    (entangled : Entangled fun session => lockedKeys hashtext (requests session)) :
    ∃ state, Reaches (hashedStore hashtext) (fun _ _ => True) (opening db requests) state ∧
      state.Deadlocked (payClaimOrder hashtext) (hashedStore hashtext) := by
  rcases entangled with ⟨taken, apart, session, circle⟩
  rcases exists_waiting_nodes circle with ⟨sessions, each, within⟩
  have waits : ∀ session, session ∈ sessions ->
      taken session < (lockedKeys hashtext (requests session)).length := by
    intro one member
    rcases each one member with ⟨two, -, key, read, -⟩
    exact (List.getElem?_eq_some_iff.mp read).1
  rcases exists_advanced db apart sessions waits with ⟨state, reached, advanced⟩
  refine ⟨state, reached, session, TransGen.mono ?_ _ _ within⟩
  rintro one two ⟨⟨different, key, read, held⟩, memberOne, memberTwo⟩
  apply State.waitsFor_iff.mpr
  rcases advanced.waiting one memberOne with ⟨next, items, stands, keys⟩
  have split : itemKeys hashtext items =
      key :: (lockedKeys hashtext (requests one)).drop (taken one + 1) := by
    have next : (lockedKeys hashtext (requests one))[taken one]? = some key := read
    rw [keys, List.drop_eq_getElem?_toList_append, next]
    rfl
  rcases @requested_lockClaimedSlots hashtext next _ _ _ split with ⟨text, requested, same⟩
  rcases advanced.mine two memberTwo key held with ⟨lock, granted, sameLock, mode⟩
  refine ⟨0, different, (AdvisoryKey.payClaim text).lock, ?_, rfl, ?_, lock, ?_, ?_⟩
  · rw [stands, requested]
    exact List.mem_singleton_self _
  · rfl
  · exact mem_held.mpr granted
  · exact @conflict_of_key hashtext _ _ key (congrArg some same) sameLock mode

end Entangling

/-- Claim transactions can come to wait for each other in a circle exactly where the lists
of slots they lock are entangled. -/
theorem claims_not_deadlocked_iff (hashtext : UuidText -> Int) (db : Db)
    (requests : Nat -> Request) :
    (∀ state, Reaches (hashedStore hashtext) (fun _ _ => True) (opening db requests) state ->
      ¬ state.Deadlocked (payClaimOrder hashtext) (hashedStore hashtext)) <->
      ¬ Entangled fun session => lockedKeys hashtext (requests session) := by
  constructor
  · intro free entangled
    rcases exists_deadlocked db entangled with ⟨state, reached, stuck⟩
    exact free state reached stuck
  · intro loose state reached stuck
    exact loose (entangled_of_deadlocked reached stuck)

def pairClaim (first second : Nat) : CreateClaimInput where
  learnerAccountId := .canonical (.seeded 2)
  teacherAccountId := .canonical (.seeded 1)
  amountKopecks := .integer 300000
  paymentChannel := .other
  paymentMethodId := none
  items := [⟨some (.canonical (.seeded first)), none⟩, ⟨some (.canonical (.seeded second)), none⟩]
  paidAt := none
  note := none

/-- The learner and the teacher record the same two lessons, in opposite orders. -/
def oppositeClaims : Nat -> Request
  | 0 => .createLearnerClaim (pairClaim 10 11)
  | _ => .createTeacherMarkPaid (pairClaim 11 10)

def slotNumber (text : UuidText) : Int :=
  match text.id with
  | .seeded number => number
  | _ => 0

/-- Each of the two has locked the lesson the other one asks for. -/
theorem claims_deadlocked :
    ¬ ∀ (hashtext : UuidText -> Int) (db : Db) (requests : Nat -> Request) (state : State),
      Reaches (hashedStore hashtext) (fun _ _ => True) (opening db requests) state ->
        ¬ state.Deadlocked (payClaimOrder hashtext) (hashedStore hashtext) := by
  intro free
  rcases exists_state_of_play (hashedStore slotNumber) (opening Db.empty oppositeClaims)
    (Event.steps 0 2 (.unsent "") ++ Event.steps 1 2 (.unsent ""))
    (fun state =>
      state.waitsFor (payClaimOrder slotNumber) (hashedStore slotNumber) 0 1 &&
        state.waitsFor (payClaimOrder slotNumber) (hashedStore slotNumber) 1 0)
    (by decide +kernel) with ⟨state, reached, waits⟩
  rcases Bool.and_eq_true_iff.mp waits with ⟨learner, teacher⟩
  exact free slotNumber Db.empty oppositeClaims state reached
    ⟨0, TransGen.tail (TransGen.single learner) teacher⟩

end LevelChannel.Journal
