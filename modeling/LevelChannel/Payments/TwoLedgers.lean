import LevelChannel.Events.Runs
import LevelChannel.Lessons.Settle
import LevelChannel.Payments.PaidState

namespace LevelChannel

open Tables Events

namespace Payments

/-!
# Two ledgers for one lesson

A settlement covers completions and asks what earlier settlements have covered.  A claim
names slots, and its gate asks the journal, the packages and the orders.  Neither asks the
other, so a lesson that is paid in one ledger can be paid in the other one as well, unless each
pair of teacher and learner keeps to one of them.
-/

/-- `listSettledPaidSlotIds`, for one slot -/
def settledPaid (db : Db) (slotId : RowId) : Bool :=
  db.completions.any fun row => row.slotId = slotId &&
    row.amountKopecks ≤ db.coveredKopecks row.id

/-- The slot has a package unit in use, an active claim or a live allocation of a paid
order. -/
def paidForSlot (db : Db) (slotId : RowId) : Bool :=
  db.consumedByPackage slotId || db.claimedBySbp slotId || db.hasDirect slotId

/-- The loop of `settleLessonsInTx`: the completions it covers, and by how much. -/
def coverage : List (LessonCompletion × Nat) -> Nat -> List (LessonCompletion × Nat)
  | [], _ => []
  | (completion, covered) :: rest, budget =>
    let allocation := min (completion.amountKopecks - covered) budget
    if budget = 0 then []
    else if allocation = 0 then coverage rest budget
    else (completion, allocation) :: coverage rest (budget - allocation)

def insertCoverage (settlementId : RowId) (onError : Program) :
    List (LessonCompletion × Nat) -> (List RowId -> Program) -> Program
  | [], next => next []
  | (completion, allocation) :: rest, next =>
    Program.checked [(LockTarget.completion completion.id).forKeyShare] onError
      (fun own => (own.completion? completion.id).isNone)
      (fun _ => [.settlementCompletion ⟨settlementId, completion.id, allocation⟩])
      fun _ => insertCoverage settlementId onError rest fun coveredIds =>
        next (completion.id :: coveredIds)

theorem coverCandidates_inserts (settlementId : RowId) (onError : Program)
    (candidates : List (LessonCompletion × Nat)) (budget : Nat) (next : List RowId -> Program) :
    Program.coverCandidates settlementId onError candidates budget next =
      insertCoverage settlementId onError (coverage candidates budget) next := by
  induction candidates generalizing budget next with
  | nil => rfl
  | cons first rest extend =>
    rcases first with ⟨completion, covered⟩
    rw [Program.coverCandidates, coverage]
    split
    · rfl
    · split
      · exact extend budget next
      · rw [insertCoverage]
        congr 1
        funext _
        exact extend _ _

/-- A call of `settleLessonsInTx` that has read its candidates. -/
structure SettleWork where
  request : SettleRequest
  amountKopecks : Nat
  now : Nat
  candidates : List (LessonCompletion × Nat)
  deriving DecidableEq

def eligible (db : Db) (request : SettleRequest) : Option (List (LessonCompletion × Nat)) :=
  let candidates := db.settleCandidates request.teacherId request.learnerId.id
    (request.completionIds.map UuidText.id)
  if request.completionIds.all fun id =>
      candidates.any fun candidate => .canonical candidate.1.id = id then some candidates
  else none

def openKopecks (candidates : List (LessonCompletion × Nat)) : Nat :=
  (candidates.map fun candidate => candidate.1.amountKopecks - candidate.2).sum

def Reached (candidates : List (LessonCompletion × Nat)) (budget : Nat)
    (completion : LessonCompletion) : Prop :=
  ∃ before covered after, candidates = before ++ (completion, covered) :: after ∧
    covered < completion.amountKopecks ∧ openKopecks before < budget

theorem mem_coverage {candidates : List (LessonCompletion × Nat)} {budget : Nat}
    {completion : LessonCompletion} :
    (∃ allocation, (completion, allocation) ∈ coverage candidates budget) <->
      Reached candidates budget completion := by
  induction candidates generalizing budget with
  | nil =>
    refine iff_of_false ?_ ?_
    · rintro ⟨_, none⟩
      cases none
    · rintro ⟨before, covered, after, none, -⟩
      exact absurd none.symm (List.append_ne_nil_of_right_ne_nil _ (List.cons_ne_nil _ _))
  | cons first rest extend =>
    rcases first with ⟨row, covered⟩
    -- a completion is reached as the first one, or after it with what that leaves
    have split : Reached ((row, covered) :: rest) budget completion <->
        (completion = row ∧ covered < row.amountKopecks ∧ 0 < budget) ∨
          (row.amountKopecks - covered < budget ∧
            Reached rest (budget - (row.amountKopecks - covered)) completion) := by
      constructor
      · rintro ⟨before, found, after, same, owed, within⟩
        cases before with
        | nil =>
          injection same with first same
          injection first with first found
          subst first found
          exact Or.inl ⟨rfl, owed, within⟩
        | cons first before =>
          injection same with first same
          subst first same
          simp only [openKopecks, List.map_cons, List.sum_cons] at within
          exact Or.inr ⟨by omega, before, found, after, rfl, owed, by
            simp only [openKopecks]
            omega⟩
      · rintro (⟨rfl, owed, some⟩ | ⟨left, before, found, after, rfl, owed, within⟩)
        · exact ⟨[], covered, rest, rfl, owed, some⟩
        · refine ⟨(row, covered) :: before, found, after, rfl, owed, ?_⟩
          simp only [openKopecks, List.map_cons, List.sum_cons] at within ⊢
          omega
    rw [split, coverage]
    by_cases spent : budget = 0
    · simp [spent]
    · by_cases nothing : min (row.amountKopecks - covered) budget = 0
      · have settled : row.amountKopecks - covered = 0 := by omega
        have closed : ¬ covered < row.amountKopecks := by omega
        simp only [spent, nothing, if_false, if_true, extend]
        simp only [settled, Nat.sub_zero, closed, false_and, and_false, false_or]
        exact ⟨fun reached => ⟨by omega, reached⟩, And.right⟩
      · simp only [spent, nothing, if_false, List.mem_cons, exists_or, extend]
        refine or_congr ⟨?_, ?_⟩ ⟨fun reached => ?_, fun reached => ?_⟩
        · rintro ⟨allocation, same⟩
          injection same with same
          exact ⟨same, by omega, by omega⟩
        · rintro ⟨rfl, -, -⟩
          exact ⟨_, rfl⟩
        · rcases reached with ⟨before, found, after, same, owed, within⟩
          have less : row.amountKopecks - covered < budget := by omega
          rw [Nat.min_eq_left (Nat.le_of_lt less)] at within
          exact ⟨less, before, found, after, same, owed, within⟩
        · rw [Nat.min_eq_left (Nat.le_of_lt reached.1)]
          exact reached.2

theorem mem_of_coverage {candidates : List (LessonCompletion × Nat)} {budget : Nat}
    {row : LessonCompletion × Nat} (listed : row ∈ coverage candidates budget) :
    ∃ covered, (row.1, covered) ∈ candidates := by
  rcases mem_coverage.mp ⟨row.2, listed⟩ with ⟨before, covered, after, parts, -⟩
  exact ⟨covered, parts ▸ List.mem_append_right _ List.mem_cons_self⟩

/-- The rows a call inserts. -/
def SettleWork.write (work : SettleWork) (settlementId : RowId) (db : Db) : Db :=
  let settlement : LessonSettlement :=
    { id := settlementId
      learnerAccountId := work.request.learnerId.id
      teacherId := work.request.teacherId
      amountKopecks := work.amountKopecks
      markedByAccountId := work.request.teacherId
      createdAt := work.now }
  let rows := (coverage work.candidates work.amountKopecks).map fun covered =>
    (⟨settlementId, covered.1.id, covered.2⟩ : SettlementCompletion)
  { db with
    settlements := db.settlements ++ [settlement]
    settlementCompletions := db.settlementCompletions ++ rows }

/-- What is refused before the transaction of `createLearnerClaim` and
`createTeacherMarkPaid`; the amount, if nothing is. -/
def claimAmount (now : Nat) (initiatedBy : ClaimInitiator) (input : CreateClaimInput) :
    Except String Nat :=
  match Program.claimShape input with
  | .error reason => .error reason
  | .ok amountKopecks =>
    match initiatedBy with
    | .learner =>
      if input.paymentChannel = .sbp ∧ input.paymentMethodId = none then
        .error "method_required_for_sbp"
      else .ok amountKopecks
    | .teacher =>
      match input.paidAt with
      | none => .ok amountKopecks
      | some none => .error "invalid_paid_at"
      | some (some paidDate) =>
        if now + msPerDay < paidDate then .error "paid_at_in_future" else .ok amountKopecks

def methodAccepted (db : Db) (initiatedBy : ClaimInitiator) (input : CreateClaimInput) : Bool :=
  match input.paymentChannel, input.paymentMethodId with
  | .sbp, some paymentMethodId =>
    (db.catalog.sbpMethod paymentMethodId).any fun method =>
      UuidText.canonical method.teacherAccountId = input.teacherAccountId &&
        !(initiatedBy = .learner && method.isArchived)
  | _, _ => true

/-- The check of one item; the record that goes with the claim. -/
def checkItem (db : Db) (claimId : RowId) (input : CreateClaimInput) (item : ClaimItemInput) :
    Except String PaymentClaimItem :=
  match item.slotId, item.packagePurchaseId with
  | some slotId, none =>
    match db.slot? slotId.id with
    | none => .error "slot_not_found"
    | some slot =>
      if UuidText.canonical slot.teacherAccountId ≠ input.teacherAccountId ∨
          slot.learnerAccountId.map UuidText.canonical ≠ some input.learnerAccountId then
        .error "slot_not_belongs_to_pair"
      else if slotPastRetroWindow db.clock slot then .error "slot_too_old"
      else if db.slotAlreadyPaid slotId.id then .error "slot_already_paid"
      else .ok ⟨claimId, some slotId.id, none, slot.snapshotAmountKopecks.getD 0⟩
  | none, some packagePurchaseId =>
    match (db.purchase? packagePurchaseId).filter fun purchase =>
        UuidText.canonical purchase.accountId = input.learnerAccountId with
    | none => .error "package_not_found"
    | some purchase =>
      if purchase.teacherId.any fun teacherId =>
          UuidText.canonical teacherId ≠ input.teacherAccountId then
        .error "package_not_belongs_to_pair"
      else .ok ⟨claimId, none, some packagePurchaseId, purchase.amountKopecks⟩
  | _, _ => .error "item_xor_violation"

/-- A claim that is being created: the items still to be checked, and the records of those
that have been. -/
structure ClaimWork where
  initiatedBy : ClaimInitiator
  input : CreateClaimInput
  amountKopecks : Nat
  now : Nat
  left : List ClaimItemInput
  records : List PaymentClaimItem
  deriving DecidableEq

def ClaimWork.locks (work : ClaimWork) : List UuidText :=
  work.input.items.filterMap ClaimItemInput.slotId

def ClaimWork.slots (work : ClaimWork) : List RowId :=
  work.records.filterMap PaymentClaimItem.slotId

/-- `insert into payment_claim_items`, under the bound on the amount and the unique index. -/
def insertItem (db : Db) (record : PaymentClaimItem) : Option Db :=
  if maxAmountKopecks ≤ record.expectedAmountKopecks ||
      db.claimItems.any (fun other => other.claimId = record.claimId &&
        other.slotId = record.slotId && other.packagePurchaseId = record.packagePurchaseId) then
    none
  else some (db.apply (.claimItem record))

def ClaimWork.write (work : ClaimWork) (claimId : RowId) (db : Db) : Option Db :=
  if (db.claim? claimId).isSome then none
  else
    let claim := Program.newClaim claimId work.now work.initiatedBy work.input
      work.amountKopecks work.records
    work.records.foldlM insertItem (db.apply (.claim (.insert claim)))

def settlesAt (settles : RowId -> RowId -> Bool) (db : Db) (slotId : RowId) : Bool :=
  (db.slot? slotId).any fun slot => slot.learnerAccountId.any (settles slot.teacherAccountId)

def paysAt (settles : RowId -> RowId -> Bool) (db : Db) (slotId : RowId) : Bool :=
  (db.slot? slotId).any fun slot => slot.learnerAccountId.any fun learnerAccountId =>
    !settles slot.teacherAccountId learnerAccountId

/-- The row uses a unit for the slot, claims a payment for it or gives it a part of an order. -/
def paysFor (slotId : RowId) : Write -> Bool
  | .consumption change => change.row.slotId = slotId && change.row.active
  | .claimItem row => row.slotId = some slotId
  | .allocation row => Db.allocatedTo slotId row
  | _ => false

def unpaidOutside (db : Db) (slotId : RowId) : Bool :=
  db.consumptions.all (fun row => !paysFor slotId (.consumption (.insert row))) &&
    db.claimItems.all (fun row => !paysFor slotId (.claimItem row)) &&
    db.allocations.all fun row => !paysFor slotId (.allocation row)

/-- The committed tables, the transactions that settle and that create claims, and two
records: the slots whose completions were given money and whether they were paid in another
ledger, and the slots that claims were accepted for and whether they were settled. -/
structure Ledgers where
  base : Db
  settling : List (Nat × SettleWork)
  claiming : List (Nat × ClaimWork)
  covered : List (RowId × Bool)
  claimed : List (RowId × Bool)

/-- A settlement reads its candidates and commits; a claim takes the locks of its slots,
checks its items one by one and commits; both may be rolled back before, and whatever else
is written comes in between. -/
inductive LedgersEvent where
  | settle (number : Nat) (request : SettleRequest) (amountKopecks : Nat)
  | settled (number : Nat)
  | unsettled (number : Nat)
  | claim (number : Nat) (initiatedBy : ClaimInitiator) (input : CreateClaimInput)
  | check (number : Nat)
  | claimed (number : Nat)
  | unclaimed (number : Nat)
  | tick (passed : Nat)
  | catalog (catalog : Catalog)
  | other (write : Write)

namespace Ledgers

variable (ledgers : Ledgers)

def pairFree (request : SettleRequest) : Bool :=
  ledgers.settling.all fun entry => (entry.2.request.teacherId, entry.2.request.learnerId) ≠
    (request.teacherId, request.learnerId)

def slotsFree (input : CreateClaimInput) : Bool :=
  ledgers.claiming.all fun entry => entry.2.locks.all fun slotId =>
    input.items.all fun item => item.slotId ≠ some slotId

def endSettle (number : Nat) : List (Nat × SettleWork) :=
  ledgers.settling.filter fun entry => entry.1 ≠ number

def endClaim (number : Nat) : List (Nat × ClaimWork) :=
  ledgers.claiming.filter fun entry => entry.1 ≠ number

def checked (number : Nat) : Option (ClaimWork × Except String PaymentClaimItem) :=
  match ledgers.claiming.lookup number with
  | none => none
  | some work =>
    work.left.head?.map fun item =>
      (work, checkItem ledgers.base (.minted number 0) work.input item)

/-- Bookings, completions, resolutions of claims, orders, allocations and refunds: all that
is written besides settlements and the items of claims.  No route deletes a slot or gives it to
another teacher, or to another learner once it has one; a completion has the slot's teacher and
a new id, and keeps what it says but for its mark. -/
def writesOther : Write -> Bool
  | .settlement _ | .settlementCompletion _ | .claim (.insert _) | .claimItem _
  | .slot (.delete _) => false
  | .slot (.insert row) => (ledgers.base.slot? row.id).isNone
  | .slot (.replace row) => (ledgers.base.slot? row.id).all fun old =>
      row.teacherAccountId = old.teacherAccountId &&
        (old.learnerAccountId.isNone || row.learnerAccountId = old.learnerAccountId)
  | .completion (.insert row) =>
    (ledgers.base.slot? row.slotId).any (fun slot => slot.teacherAccountId = row.teacherId) &&
      (ledgers.base.completion? row.id).isNone &&
        ledgers.base.settlementCompletions.all (fun covered => covered.completionId ≠ row.id) &&
        ledgers.settling.all fun entry => entry.2.candidates.all fun candidate =>
          candidate.1.id ≠ row.id
  | .completion (.replace row) => ledgers.base.completions.all fun old => old.id ≠ row.id ||
      (row.slotId = old.slotId && row.teacherId = old.teacherId &&
        row.amountKopecks = old.amountKopecks)
  | _ => true

/-- What an event does, where it is possible. -/
def step : LedgersEvent -> Option Ledgers
  | .settle number request amountKopecks =>
    if (ledgers.settling.lookup number).isNone && ledgers.pairFree request then
      match eligible ledgers.base request with
      | none => some ledgers
      | some candidates =>
        some { ledgers with
          settling := (number, ⟨request, amountKopecks, ledgers.base.clock, candidates⟩) ::
            ledgers.settling }
    else none
  | .settled number =>
    match ledgers.settling.lookup number with
    | none => none
    | some work =>
      let rows := coverage work.candidates work.amountKopecks
      -- the primary key, and the references of the rows
      if ledgers.base.settlements.all (fun row => row.id ≠ .minted number 0) &&
          rows.all (fun row => (ledgers.base.completion? row.1.id).isSome) then
        some { ledgers with
          base := work.write (.minted number 0) ledgers.base
          settling := ledgers.endSettle number
          covered := rows.map (fun row =>
            (row.1.slotId, paidForSlot ledgers.base row.1.slotId)) ++ ledgers.covered }
      else some { ledgers with settling := ledgers.endSettle number }
  | .unsettled number => some { ledgers with settling := ledgers.endSettle number }
  | .claim number initiatedBy input =>
    match claimAmount ledgers.base.clock initiatedBy input with
    | .error _ => some ledgers
    | .ok amountKopecks =>
      if (ledgers.claiming.lookup number).isSome || !ledgers.slotsFree input then none
      else if methodAccepted ledgers.base initiatedBy input then
        some { ledgers with
          claiming := (number, ⟨initiatedBy, input, amountKopecks, ledgers.base.clock,
            input.items, []⟩) :: ledgers.claiming }
      else some ledgers
  | .check number =>
    match ledgers.checked number with
    | none => none
    | some (_, .error _) => some { ledgers with claiming := ledgers.endClaim number }
    | some (work, .ok record) =>
      let further := { work with left := work.left.tail, records := work.records ++ [record] }
      some { ledgers with claiming := (number, further) :: ledgers.endClaim number }
  | .claimed number =>
    match ledgers.claiming.lookup number with
    | none => none
    | some work =>
      if work.left ≠ [] then none
      else
        match work.write (.minted number 0) ledgers.base with
        | none => some { ledgers with claiming := ledgers.endClaim number }
        | some base =>
          some { ledgers with
            base := base
            claiming := ledgers.endClaim number
            claimed := work.slots.map (fun slotId => (slotId, settledPaid ledgers.base slotId)) ++
              ledgers.claimed }
  | .unclaimed number => some { ledgers with claiming := ledgers.endClaim number }
  | .tick passed => some { ledgers with base := ledgers.base.drift (.tick passed) }
  | .catalog catalog => some { ledgers with base := ledgers.base.drift (.catalog catalog) }
  | .other write =>
    if ledgers.writesOther write then some { ledgers with base := ledgers.base.apply write }
    else none

/-- Each pair keeps to one ledger.  Only pairs that settle ask for a settlement, and only the
others claim to have paid for lessons, book with a package or pay by card; a lesson comes to a
pair that settles with nothing paid for it; and the lessons of the others have a price. -/
def keepsToLedger (settles : RowId -> RowId -> Bool) : LedgersEvent -> Bool
  | .settle _ request _ => settles request.teacherId request.learnerId.id
  | .claim _ _ input => !settles input.teacherAccountId.id input.learnerAccountId.id ||
      input.items.all fun item => item.slotId.isNone
  | .other (.slot change) =>
    change.row.learnerAccountId.all fun learnerAccountId =>
      !settles change.row.teacherAccountId learnerAccountId ||
        unpaidOutside ledgers.base change.row.id
  | .other (.completion (.insert row)) =>
    settlesAt settles ledgers.base row.slotId || 0 < row.amountKopecks
  | .other write => ledgers.base.slots.all fun slot =>
      !(settlesAt settles ledgers.base slot.id && paysFor slot.id write)
  | _ => true

/-- Money was given to completions of slots that no other ledger had paid for, and claims
were accepted for slots that were not settled. -/
structure Exclusive : Prop where
  covered : ∀ entry, entry ∈ ledgers.covered -> entry.2 = false
  claimed : ∀ entry, entry ∈ ledgers.claimed -> entry.2 = false

end Ledgers

def ledgersOpening (base : Db) : Ledgers := ⟨base, [], [], [], []⟩

/-! ## What the events keep -/

theorem mem_change {Row Key : Type} [DecidableEq Key] {key : Row -> Key} {rows : List Row}
    {change : Change Row} {row : Row} (listed : row ∈ change.apply key rows) :
    row = change.row ∨ row ∈ rows := by
  cases change with
  | insert new => exact ((mem_insert key).mp listed).symm
  | replace new => exact (mem_replace listed).imp_right And.left
  | delete old => exact Or.inr (mem_delete.mp listed).1

theorem paidForSlot_eq_false {db : Db} {slotId : RowId} (unpaid : unpaidOutside db slotId = true) :
    paidForSlot db slotId = false := by
  simp only [unpaidOutside, paysFor, Bool.and_eq_true, List.all_eq_true, Bool.not_eq_true',
    Change.row] at unpaid
  rcases unpaid with ⟨⟨units, items⟩, allocations⟩
  simp only [paidForSlot, Bool.or_eq_false_iff]
  refine ⟨⟨?_, ?_⟩, ?_⟩
  · cases found : db.consumption? slotId with
    | none => simp [Db.consumedByPackage, found]
    | some row =>
      have key : row.slotId = slotId := key_of_get found
      simpa [Db.consumedByPackage, found, key] using units row (mem_of_get found)
  · simp only [Db.claimedBySbp, List.any_eq_false, Bool.and_eq_true, not_and]
    intro item listed named
    exact absurd named (by simpa using items item listed)
  · simp only [Db.hasDirect, List.any_eq_false, Bool.and_eq_true, not_and]
    intro allocation listed named
    exact absurd named (by simpa using allocations allocation listed)

theorem unpaidOutside_apply {db : Db} {slotId : RowId} (unpaid : unpaidOutside db slotId = true)
    {write : Write} (pays : paysFor slotId write = false) :
    unpaidOutside (db.apply write) slotId = true := by
  cases write with
  | consumption change =>
    simp only [unpaidOutside, Bool.and_eq_true, List.all_eq_true] at unpaid ⊢
    refine ⟨⟨fun row listed => ?_, unpaid.1.2⟩, unpaid.2⟩
    rcases mem_change listed with rfl | old
    · rw [Bool.not_eq_true']
      exact pays
    · exact unpaid.1.1 row old
  | claimItem item =>
    simp only [unpaidOutside, Bool.and_eq_true, List.all_eq_true] at unpaid ⊢
    refine ⟨⟨unpaid.1.1, fun row listed => ?_⟩, unpaid.2⟩
    rcases List.mem_append.mp listed with old | new
    · exact unpaid.1.2 row old
    · rw [List.mem_singleton.mp new, Bool.not_eq_true']
      exact pays
  | allocation allocation =>
    rw [Db.apply, Db.allocate]
    split
    · exact unpaid
    · simp only [unpaidOutside, Bool.and_eq_true, List.all_eq_true] at unpaid ⊢
      refine ⟨unpaid.1, fun row listed => ?_⟩
      rcases List.mem_append.mp listed with old | new
      · exact unpaid.2 row old
      · rw [List.mem_singleton.mp new, Bool.not_eq_true']
        exact pays
  | _ => exact unpaid

section Divided

variable {settles : RowId -> RowId -> Bool} {base later : Db}

/-- Lessons stay with their pairs. -/
def StaysWith (base later : Db) : Prop :=
  ∀ slotId slot, base.slot? slotId = some slot -> ∃ now, later.slot? slotId = some now ∧
    now.teacherAccountId = slot.teacherAccountId ∧
      (slot.learnerAccountId.isSome -> now.learnerAccountId = slot.learnerAccountId)

theorem StaysWith.of_same (slots : later.slots = base.slots) : StaysWith base later :=
  fun slotId slot found => ⟨slot, by rwa [Db.slot?, slots], rfl, fun _ => rfl⟩

theorem StaysWith.any (stays : StaysWith base later) {slotId : RowId}
    {pair : RowId -> RowId -> Bool}
    (before : ((base.slot? slotId).any fun slot =>
      slot.learnerAccountId.any (pair slot.teacherAccountId)) = true) :
    ((later.slot? slotId).any fun slot =>
      slot.learnerAccountId.any (pair slot.teacherAccountId)) = true := by
  rcases (Option.any_eq_true _ _).mp before with ⟨slot, found, holds⟩
  rcases stays slotId slot found with ⟨now, read, teacher, learner⟩
  cases known : slot.learnerAccountId with
  | none => simp [known] at holds
  | some learnerAccountId =>
    rw [read, Option.any_some, teacher, learner (by simp [known])]
    exact holds

/-- What is there is divided: lessons of pairs that settle are unpaid otherwise, what is covered
is theirs, and the other lessons have a price. -/
structure Divided (settles : RowId -> RowId -> Bool) (base : Db) : Prop where
  unpaid : ∀ slotId, settlesAt settles base slotId = true -> unpaidOutside base slotId = true
  covered : ∀ row, row ∈ base.settlementCompletions -> ∀ completion,
    completion ∈ base.completions -> completion.id = row.completionId ->
      settlesAt settles base completion.slotId = true
  priced : ∀ completion, completion ∈ base.completions ->
    settlesAt settles base completion.slotId = true ∨ 0 < completion.amountKopecks
  taught : ∀ completion, completion ∈ base.completions ->
    ∃ slot, base.slot? completion.slotId = some slot ∧
      slot.teacherAccountId = completion.teacherId
  single : Tables.Unique LessonCompletion.id base.completions

theorem settlesAt_eq_false {slotId : RowId} (pays : paysAt settles base slotId = true) :
    settlesAt settles base slotId = false := by
  rcases (Option.any_eq_true _ _).mp pays with ⟨slot, found, other⟩
  rcases (Option.any_eq_true _ _).mp other with ⟨learnerAccountId, known, not⟩
  simpa [settlesAt, found, known] using not

theorem Divided.settledPaid (divided : Divided settles base) {slotId : RowId}
    (pays : paysAt settles base slotId = true) : settledPaid base slotId = false := by
  have apart := settlesAt_eq_false pays
  rw [Payments.settledPaid, List.any_eq_false]
  intro completion listed
  by_cases same : completion.slotId = slotId
  · subst same
    have nothing : base.coveredKopecks completion.id = 0 := by
      refine total_eq_zero fun row member => decide_eq_false fun covers => ?_
      rw [divided.covered row member completion listed covers.symm] at apart
      cases apart
    have price := (divided.priced completion listed).resolve_left (by rw [apart]; decide)
    simp only [nothing, Bool.and_eq_true, decide_eq_true_eq, not_and]
    omega
  · simp [same]

theorem Divided.of_same (divided : Divided settles base) (slots : later.slots = base.slots)
    (completions : later.completions = base.completions)
    (unpaid : ∀ slotId, settlesAt settles base slotId = true -> unpaidOutside later slotId = true)
    (covered : ∀ row, row ∈ later.settlementCompletions -> row ∈ base.settlementCompletions ∨
      ∀ completion, completion ∈ base.completions -> completion.id = row.completionId ->
        settlesAt settles base completion.slotId = true) : Divided settles later := by
  have same (slotId : RowId) : settlesAt settles later slotId = settlesAt settles base slotId := by
    rw [settlesAt, Db.slot?, slots]
    rfl
  refine ⟨fun slotId => same slotId ▸ unpaid slotId, ?_, ?_, ?_, ?_⟩
  · intro row listed completion member key
    rw [completions] at member
    rw [same]
    rcases covered row listed with old | new
    · exact divided.covered row old completion member key
    · exact new completion member key
  · rw [completions]
    exact fun completion member => same completion.slotId ▸ divided.priced completion member
  · simp only [completions, Db.slot?, slots]
    exact divided.taught
  · rw [completions]
    exact divided.single

end Divided

namespace Ledgers

variable {settles : RowId -> RowId -> Bool} {ledgers after : Ledgers} {number : Nat}

structure Consistent (settles : RowId -> RowId -> Bool) (ledgers : Ledgers) : Prop
    extends Exclusive ledgers where
  divided : Divided settles ledgers.base
  settling : ∀ entry, entry ∈ ledgers.settling -> ∀ candidate,
    candidate ∈ entry.2.candidates -> settlesAt settles ledgers.base candidate.1.slotId = true ∧
      ∀ completion, completion ∈ ledgers.base.completions ->
        completion.id = candidate.1.id -> settlesAt settles ledgers.base completion.slotId = true
  claiming : ∀ entry, entry ∈ ledgers.claiming ->
    (settles entry.2.input.teacherAccountId.id entry.2.input.learnerAccountId.id = true ->
      ∀ item, item ∈ entry.2.left -> item.slotId = none) ∧
    ∀ slotId, slotId ∈ entry.2.slots -> paysAt settles ledgers.base slotId = true

theorem Consistent.ended (consistent : ledgers.Consistent settles)
    {settling : List (Nat × SettleWork)} {claiming : List (Nat × ClaimWork)}
    (settlements : ∀ entry, entry ∈ settling -> entry ∈ ledgers.settling)
    (claims : ∀ entry, entry ∈ claiming -> entry ∈ ledgers.claiming) :
    Consistent settles { ledgers with settling := settling, claiming := claiming } where
  covered := consistent.covered
  claimed := consistent.claimed
  divided := consistent.divided
  settling entry member := consistent.settling entry (settlements entry member)
  claiming entry member := consistent.claiming entry (claims entry member)

theorem mem_endSettle {entry : Nat × SettleWork} (member : entry ∈ ledgers.endSettle number) :
    entry ∈ ledgers.settling :=
  (List.mem_filter.mp member).1

theorem mem_endClaim {entry : Nat × ClaimWork} (member : entry ∈ ledgers.endClaim number) :
    entry ∈ ledgers.claiming :=
  (List.mem_filter.mp member).1

theorem Consistent.eligible (consistent : ledgers.Consistent settles) {request : SettleRequest}
    (pair : settles request.teacherId request.learnerId.id = true)
    {candidates : List (LessonCompletion × Nat)}
    (read : eligible ledgers.base request = some candidates) {candidate : LessonCompletion × Nat}
    (listed : candidate ∈ candidates) : settlesAt settles ledgers.base candidate.1.slotId = true ∧
      ∀ completion, completion ∈ ledgers.base.completions -> completion.id = candidate.1.id ->
          settlesAt settles ledgers.base completion.slotId = true := by
  unfold Payments.eligible at read
  dsimp only at read
  split at read
  · injection read with read
    subst read
    simp only [Db.settleCandidates, List.mem_mergeSort, List.mem_filter, List.mem_map,
      Bool.and_eq_true, decide_eq_true_eq] at listed
    rcases listed with ⟨⟨row, ⟨member, ⟨teacher, learner⟩, -⟩, rfl⟩, -⟩
    have own : settlesAt settles ledgers.base row.slotId = true := by
      rcases consistent.divided.taught row member with ⟨slot, found, taught⟩
      rw [found, Option.any_some, decide_eq_true_eq] at learner
      rw [settlesAt, found, Option.any_some, learner, Option.any_some, taught, teacher]
      exact pair
    refine ⟨own, fun completion other key => ?_⟩
    have same := List.inj_on_of_nodup_map consistent.divided.single other member key
    rwa [same]
  · cases read

theorem consistent_settle (consistent : ledgers.Consistent settles) {request : SettleRequest}
    {amountKopecks : Nat} (pair : settles request.teacherId request.learnerId.id = true)
    (stepped : ledgers.step (.settle number request amountKopecks) = some after) :
    after.Consistent settles := by
  rw [step] at stepped
  split at stepped
  · split at stepped
    · injection stepped with stepped
      exact stepped ▸ consistent
    · next candidates read =>
      injection stepped with stepped
      subst stepped
      refine { consistent with settling := fun entry member => ?_ }
      rcases List.mem_cons.mp member with rfl | before
      · exact fun candidate listed => consistent.eligible pair read listed
      · exact consistent.settling entry before
  · cases stepped

theorem consistent_settled (consistent : ledgers.Consistent settles)
    (stepped : ledgers.step (.settled number) = some after) : after.Consistent settles := by
  rw [step] at stepped
  split at stepped
  · cases stepped
  · next work found =>
    have under := consistent.settling _ (mem_of_lookup found)
    dsimp only at stepped
    split at stepped
    · injection stepped with stepped
      subst stepped
      refine ⟨⟨fun entry member => ?_, consistent.claimed⟩, ?_,
        fun entry member => consistent.settling entry (mem_endSettle member), consistent.claiming⟩
      · rcases List.mem_append.mp member with new | before
        · rcases List.mem_map.mp new with ⟨row, listed, rfl⟩
          rcases mem_of_coverage listed with ⟨covered, candidate⟩
          exact paidForSlot_eq_false (consistent.divided.unpaid _ (under _ candidate).1)
        · exact consistent.covered entry before
      · refine consistent.divided.of_same rfl rfl consistent.divided.unpaid fun row member => ?_
        rcases List.mem_append.mp member with before | new
        · exact Or.inl before
        · rcases List.mem_map.mp new with ⟨row, listed, rfl⟩
          rcases mem_of_coverage listed with ⟨covered, candidate⟩
          exact Or.inr (under _ candidate).2
    · injection stepped with stepped
      subst stepped
      exact consistent.ended (fun _ => mem_endSettle) fun _ => id

theorem consistent_claim (consistent : ledgers.Consistent settles) {initiatedBy : ClaimInitiator}
    {input : CreateClaimInput}
    (pair : settles input.teacherAccountId.id input.learnerAccountId.id = true ->
      ∀ item, item ∈ input.items -> item.slotId = none)
    (stepped : ledgers.step (.claim number initiatedBy input) = some after) :
    after.Consistent settles := by
  rw [step] at stepped
  split at stepped
  · injection stepped with stepped
    exact stepped ▸ consistent
  · split at stepped
    · cases stepped
    · split at stepped
      · injection stepped with stepped
        subst stepped
        refine { consistent with claiming := fun entry member => ?_ }
        rcases List.mem_cons.mp member with rfl | before
        · refine ⟨pair, fun slotId named => ?_⟩
          cases named
        · exact consistent.claiming entry before
      · injection stepped with stepped
        exact stepped ▸ consistent

theorem pair_of_checkItem {base : Db} {claimId slotId : RowId} {input : CreateClaimInput}
    {item : ClaimItemInput} {record : PaymentClaimItem}
    (passed : checkItem base claimId input item = .ok record) (names : record.slotId = some slotId) :
    item.slotId ≠ none ∧ ∃ slot, base.slot? slotId = some slot ∧
      slot.teacherAccountId = input.teacherAccountId.id ∧
        slot.learnerAccountId = some input.learnerAccountId.id := by
  unfold checkItem at passed
  split at passed
  · next named unpaired =>
    split at passed
    · cases passed
    · next slot found =>
      split_ifs at passed with apart late paid
      injection passed with passed
      subst passed
      injection names with names
      subst names
      rw [not_or, not_ne_iff, not_ne_iff] at apart
      refine ⟨by simp [named], slot, found, ?_, ?_⟩
      · rw [← apart.1]
        rfl
      · rcases Option.map_eq_some_iff.mp apart.2 with ⟨learnerAccountId, known, same⟩
        rw [known, ← same]
        rfl
  · split at passed
    · cases passed
    · split_ifs at passed
      injection passed with passed
      subst passed
      cases names
  · cases passed

theorem consistent_check (consistent : ledgers.Consistent settles)
    (stepped : ledgers.step (.check number) = some after) : after.Consistent settles := by
  rw [step] at stepped
  split at stepped
  · cases stepped
  · injection stepped with stepped
    subst stepped
    exact consistent.ended (fun _ => id) fun _ => mem_endClaim
  · next work record read =>
    dsimp only at stepped
    injection stepped with stepped
    subst stepped
    rw [checked] at read
    split at read
    · cases read
    · next found =>
      rcases Option.map_eq_some_iff.mp read with ⟨item, first, same⟩
      injection same with same passed
      subst same
      have under := consistent.claiming _ (mem_of_lookup found)
      refine { consistent with claiming := fun entry member => ?_ }
      rcases List.mem_cons.mp member with rfl | before
      · refine ⟨fun pair other left => under.1 pair other (List.mem_of_mem_tail left),
          fun slotId named => ?_⟩
        rw [ClaimWork.slots, List.filterMap_append, List.mem_append] at named
        rcases named with earlier | new
        · exact under.2 slotId earlier
        · rcases List.mem_filterMap.mp new with ⟨one, listed, names⟩
          rw [List.mem_singleton.mp listed] at names
          rcases pair_of_checkItem passed names with ⟨named, slot, read, teacher, learner⟩
          rw [paysAt, read, Option.any_some, learner, Option.any_some, teacher,
            Bool.not_eq_true']
          by_contra pair
          exact named (under.1 (by simpa using pair) item (List.mem_of_mem_head? first))
      · exact consistent.claiming entry (mem_endClaim before)

theorem insertItems_eq {records : List PaymentClaimItem} {base later : Db}
    (inserted : records.foldlM insertItem base = some later) :
    later = { base with claimItems := base.claimItems ++ records } := by
  induction records generalizing base with
  | nil =>
    injection inserted with inserted
    rw [← inserted, List.append_nil]
  | cons record records extend =>
    rw [List.foldlM_cons] at inserted
    rcases Option.bind_eq_some_iff.mp inserted with ⟨next, first, rest⟩
    rw [insertItem] at first
    split_ifs at first
    injection first with first
    rw [extend rest, ← first]
    simp [Db.apply]

theorem consistent_claimed (consistent : ledgers.Consistent settles)
    (stepped : ledgers.step (.claimed number) = some after) : after.Consistent settles := by
  rw [step] at stepped
  split at stepped
  · cases stepped
  · next work found =>
    split at stepped
    · cases stepped
    · split at stepped
      · injection stepped with stepped
        subst stepped
        exact consistent.ended (fun _ => id) fun _ => mem_endClaim
      · next base written =>
        injection stepped with stepped
        subst stepped
        have under := (consistent.claiming _ (mem_of_lookup found)).2
        rw [ClaimWork.write] at written
        split at written
        · cases written
        · have made := insertItems_eq written
          subst made
          refine ⟨⟨consistent.covered, fun entry member => ?_⟩, ?_, consistent.settling,
            fun entry member => consistent.claiming entry (mem_endClaim member)⟩
          · rcases List.mem_append.mp member with new | before
            · rcases List.mem_map.mp new with ⟨slotId, named, rfl⟩
              exact consistent.divided.settledPaid (under slotId named)
            · exact consistent.claimed entry before
          · refine consistent.divided.of_same rfl rfl (fun slotId settled => ?_)
              fun row => Or.inl
            have unpaid := consistent.divided.unpaid slotId settled
            simp only [unpaidOutside, Bool.and_eq_true, List.all_eq_true] at unpaid ⊢
            refine ⟨⟨unpaid.1.1, fun item listed => ?_⟩, unpaid.2⟩
            rcases List.mem_append.mp listed with old | new
            · exact unpaid.1.2 item old
            · rw [paysFor, Bool.not_eq_true', decide_eq_false_iff_not]
              intro named
              have pays := under slotId (List.mem_filterMap.mpr ⟨item, new, named⟩)
              rw [settlesAt_eq_false pays] at settled
              cases settled

/-- A completion is an earlier one with another mark, or it is new. -/
def Known (ledgers : Ledgers) (settles : RowId -> RowId -> Bool) (later : Db)
    (completion : LessonCompletion) : Prop :=
  (∃ old, old ∈ ledgers.base.completions ∧ old.id = completion.id ∧
    old.slotId = completion.slotId ∧ old.teacherId = completion.teacherId ∧
      old.amountKopecks = completion.amountKopecks) ∨
    ((settlesAt settles later completion.slotId = true ∨ 0 < completion.amountKopecks) ∧
      (∃ slot, later.slot? completion.slotId = some slot ∧
        slot.teacherAccountId = completion.teacherId) ∧
      (∀ row, row ∈ ledgers.base.settlementCompletions ->
        row.completionId ≠ completion.id) ∧
      ∀ entry, entry ∈ ledgers.settling -> ∀ candidate,
        candidate ∈ entry.2.candidates -> candidate.1.id ≠ completion.id)

theorem Consistent.moved (consistent : ledgers.Consistent settles) {later : Db}
    (stays : StaysWith ledgers.base later)
    (unpaid : ∀ slotId, settlesAt settles later slotId = true -> unpaidOutside later slotId = true)
    (covered : later.settlementCompletions = ledgers.base.settlementCompletions)
    (single : Tables.Unique LessonCompletion.id later.completions)
    (known : ∀ completion, completion ∈ later.completions ->
      ledgers.Known settles later completion) :
    Consistent settles { ledgers with base := later } := by
  have still {slotId : RowId} (before : settlesAt settles ledgers.base slotId = true) :
      settlesAt settles later slotId = true := stays.any before
  refine ⟨⟨consistent.covered, consistent.claimed⟩, ⟨unpaid, ?_, ?_, ?_, single⟩, ?_, ?_⟩
  · intro row listed completion member key
    rw [covered] at listed
    rcases known completion member with ⟨old, listedOld, id, slot, -⟩ | ⟨-, -, uncovered, -⟩
    · rw [← slot]
      exact still (consistent.divided.covered row listed old listedOld (id.trans key))
    · exact absurd key.symm (uncovered row listed)
  · intro completion member
    rcases known completion member with ⟨old, listedOld, -, slot, -, amount⟩ | ⟨priced, -⟩
    · rw [← slot, ← amount]
      exact (consistent.divided.priced old listedOld).imp_left still
    · exact priced
  · intro completion member
    rcases known completion member with ⟨old, listedOld, -, slot, teacher, -⟩ | ⟨-, taught, -⟩
    · rcases consistent.divided.taught old listedOld with ⟨row, found, same⟩
      rcases stays _ row found with ⟨now, read, stayed, -⟩
      exact ⟨now, slot ▸ read, (stayed.trans same).trans teacher⟩
    · exact taught
  · intro entry under candidate listed
    rcases consistent.settling entry under candidate listed with ⟨own, others⟩
    refine ⟨still own, fun completion member key => ?_⟩
    rcases known completion member with ⟨old, listedOld, id, slot, -⟩ | ⟨-, -, -, unread⟩
    · rw [← slot]
      exact still (others old listedOld (id.trans key))
    · exact absurd key.symm (unread entry under candidate listed)
  · intro entry under
    rcases consistent.claiming entry under with ⟨pair, slots⟩
    exact ⟨pair, fun slotId named =>
      @StaysWith.any _ _ stays slotId (fun teacherId learnerId => !settles teacherId learnerId)
        (slots slotId named)⟩

theorem known_of_same {later : Db}
    (completions : later.completions = ledgers.base.completions) (completion : LessonCompletion)
    (member : completion ∈ later.completions) : ledgers.Known settles later completion :=
  Or.inl ⟨completion, completions ▸ member, rfl, rfl, rfl, rfl⟩

theorem consistent_slot (consistent : ledgers.Consistent settles) {change : Change LessonSlot}
    (possible : ledgers.writesOther (.slot change) = true)
    (keeps : ledgers.keepsToLedger settles (.other (.slot change)) = true) :
    Consistent settles { ledgers with base := ledgers.base.apply (.slot change) } := by
  have stays : StaysWith ledgers.base (ledgers.base.apply (.slot change)) := by
    intro slotId slot found
    by_cases same : slotId = change.row.id
    · subst same
      cases change with
      | insert row =>
        rw [writesOther, Option.isNone_iff_eq_none] at possible
        exact absurd (possible.symm.trans found) (by simp)
      | replace row =>
        rw [writesOther] at possible
        rw [Change.row] at found
        rw [found, Option.all_some, Bool.and_eq_true, Bool.or_eq_true, decide_eq_true_eq,
          decide_eq_true_eq, Option.isNone_iff_eq_none] at possible
        refine ⟨row, get_replace_self row found, possible.1, fun known => ?_⟩
        exact possible.2.resolve_left fun free => by rw [free] at known; cases known
      | delete row => cases possible
    · exact ⟨slot, (get_apply_of_ne change same).trans found, rfl, fun _ => rfl⟩
  refine consistent.moved stays (fun slotId settled => ?_) rfl consistent.divided.single
    (known_of_same rfl)
  by_cases same : slotId = change.row.id
  · subst same
    rcases (Option.any_eq_true _ _).mp settled with ⟨slot, found, settled⟩
    rcases (Option.any_eq_true _ _).mp settled with ⟨learnerAccountId, known, pair⟩
    have read : slot = change.row := by
      cases change with
      | insert row =>
        rw [writesOther, Option.isNone_iff_eq_none] at possible
        exact Option.some.inj (found.symm.trans (get_insert_self row possible))
      | replace row =>
        cases before : ledgers.base.slot? row.id with
        | none =>
          have gone : get LessonSlot.id ((Change.replace row).apply LessonSlot.id
              ledgers.base.slots) row.id = none := by
            rw [get_replaced, ← Db.slot?, before, Option.map_none]
          exact absurd (gone.symm.trans found) (by simp)
        | some old => exact Option.some.inj (found.symm.trans (get_replace_self row before))
      | delete row => cases possible
    subst read
    rw [keepsToLedger, known, Option.all_some, pair, Bool.not_true, Bool.false_or] at keeps
    exact keeps
  · refine consistent.divided.unpaid slotId ?_
    rwa [settlesAt, Db.slot?, Db.apply, get_apply_of_ne change same] at settled

theorem consistent_completion (consistent : ledgers.Consistent settles)
    {change : Change LessonCompletion} (possible : ledgers.writesOther (.completion change) = true)
    (keeps : ledgers.keepsToLedger settles (.other (.completion change)) = true) :
    Consistent settles { ledgers with base := ledgers.base.apply (.completion change) } := by
  have stays : StaysWith ledgers.base (ledgers.base.apply (.completion change)) :=
    .of_same rfl
  have single : Tables.Unique LessonCompletion.id
      (change.apply LessonCompletion.id ledgers.base.completions) := by
    cases change with
    | insert row =>
      simp only [writesOther, Bool.and_eq_true, Option.isNone_iff_eq_none] at possible
      exact consistent.divided.single.insert possible.1.1.2
    | replace row => exact consistent.divided.single.replace row
    | delete row => exact consistent.divided.single.delete row
  refine consistent.moved stays consistent.divided.unpaid rfl single fun completion member => ?_
  cases change with
  | insert row =>
    rcases (mem_insert LessonCompletion.id).mp member with old | rfl
    · exact Or.inl ⟨completion, old, rfl, rfl, rfl, rfl⟩
    · simp only [writesOther, Bool.and_eq_true, List.all_eq_true, decide_eq_true_eq] at possible
      rcases possible with ⟨⟨⟨taught, -⟩, uncovered⟩, unread⟩
      rcases (Option.any_eq_true _ _).mp taught with ⟨slot, found, same⟩
      rw [keepsToLedger, Bool.or_eq_true, decide_eq_true_eq] at keeps
      exact Or.inr ⟨keeps, ⟨slot, found, of_decide_eq_true same⟩, uncovered, unread⟩
  | replace row =>
    rcases List.mem_map.mp member with ⟨old, listed, rfl⟩
    split
    · next same =>
      simp only [writesOther, List.all_eq_true, Bool.or_eq_true, Bool.and_eq_true,
        decide_eq_true_eq] at possible
      rcases (possible old listed).resolve_left (absurd same) with ⟨⟨slot, teacher⟩, amount⟩
      exact Or.inl ⟨old, listed, same, slot.symm, teacher.symm, amount.symm⟩
    · exact Or.inl ⟨old, listed, rfl, rfl, rfl, rfl⟩
  | delete row =>
    exact Or.inl ⟨completion, (mem_delete.mp member).1, rfl, rfl, rfl, rfl⟩

theorem consistent_row (consistent : ledgers.Consistent settles) {write : Write}
    (slots : (ledgers.base.apply write).slots = ledgers.base.slots)
    (completions : (ledgers.base.apply write).completions = ledgers.base.completions)
    (covered : (ledgers.base.apply write).settlementCompletions =
      ledgers.base.settlementCompletions)
    (keeps : (ledgers.base.slots.all fun slot =>
      !(settlesAt settles ledgers.base slot.id && paysFor slot.id write)) = true) :
    Consistent settles { ledgers with base := ledgers.base.apply write } := by
  refine consistent.moved (.of_same slots) (fun slotId settled => ?_) covered
    (completions ▸ consistent.divided.single) (known_of_same completions)
  have before : settlesAt settles ledgers.base slotId = true := by
    rwa [settlesAt, Db.slot?, slots] at settled
  refine unpaidOutside_apply (consistent.divided.unpaid slotId before) ?_
  rcases (Option.any_eq_true _ _).mp before with ⟨slot, found, -⟩
  have key : slot.id = slotId := key_of_get found
  have apart := List.all_eq_true.mp keeps slot (mem_of_get found)
  rw [key, before, Bool.true_and, Bool.not_eq_true'] at apart
  exact apart

theorem Consistent.step (consistent : ledgers.Consistent settles) {event : LedgersEvent}
    (stepped : ledgers.step event = some after)
    (keeps : ledgers.keepsToLedger settles event = true) : after.Consistent settles := by
  cases event with
  | settle number request amountKopecks => exact consistent_settle consistent keeps stepped
  | settled number => exact consistent_settled consistent stepped
  | unsettled number =>
    injection stepped with stepped
    subst stepped
    exact consistent.ended (fun _ => mem_endSettle) fun _ => id
  | claim number initiatedBy input =>
    refine consistent_claim consistent (fun pair item listed => ?_) stepped
    rw [keepsToLedger, pair, Bool.not_true, Bool.false_or, List.all_eq_true] at keeps
    exact Option.isNone_iff_eq_none.mp (keeps item listed)
  | check number => exact consistent_check consistent stepped
  | claimed number => exact consistent_claimed consistent stepped
  | unclaimed number =>
    injection stepped with stepped
    subst stepped
    exact consistent.ended (fun _ => id) fun _ => mem_endClaim
  | tick passed =>
    injection stepped with stepped
    subst stepped
    exact consistent.moved (.of_same rfl) consistent.divided.unpaid rfl consistent.divided.single
      (known_of_same rfl)
  | catalog catalog =>
    injection stepped with stepped
    subst stepped
    exact consistent.moved (.of_same rfl) consistent.divided.unpaid rfl consistent.divided.single
      (known_of_same rfl)
  | other write =>
    rw [Ledgers.step] at stepped
    split at stepped
    · next possible =>
      injection stepped with stepped
      subst stepped
      cases write with
      | slot change => exact consistent_slot consistent possible keeps
      | completion change => exact consistent_completion consistent possible keeps
      | allocation row =>
        have same : (ledgers.base.apply (.allocation row)).slots = ledgers.base.slots ∧
            (ledgers.base.apply (.allocation row)).completions = ledgers.base.completions ∧
              (ledgers.base.apply (.allocation row)).settlementCompletions =
                ledgers.base.settlementCompletions := by
          rw [Db.apply, Db.allocate]
          split <;> exact ⟨rfl, rfl, rfl⟩
        exact consistent_row consistent same.1 same.2.1 same.2.2 keeps
      | settlementCompletion row => cases possible
      | _ => exact consistent_row consistent rfl rfl rfl keeps
    · cases stepped

end Ledgers

/-- Where each pair of teacher and learner keeps to one ledger, whatever else is written and in
whatever order, no lesson is paid for in both. -/
theorem ledgers_exclusive {settles : RowId -> RowId -> Bool} {base : Db} {last : Ledgers}
    (start : Divided settles base)
    (runs : Runs Ledgers.step (fun ledgers event _ => ledgers.keepsToLedger settles event = true)
      (ledgersOpening base) last) : last.Exclusive := by
  have opening : (ledgersOpening base).Consistent settles := by
    refine ⟨⟨?_, ?_⟩, start, ?_, ?_⟩ <;> intro entry member <;> cases member
  exact (runs.keeps opening fun _ _ _ before stepped keeps => before.step stepped keeps).toExclusive

private def lessonOfPair (number learner : Nat) (status : SlotStatus) : LessonSlot :=
  ⟨.seeded number, .seeded 2, 1000, 60, status, false, some (.seeded learner), none,
    some 200000, none, none, none, none, 0⟩

/-- Lessons at 2000 roubles: three of one learner, the first of them booked with a package, and
one of another learner. -/
private def fourLessons : Db :=
  { Db.empty with
    clock := 7200000
    slots := [lessonOfPair 7 1 .booked, lessonOfPair 8 1 .booked, lessonOfPair 9 1 .booked,
      lessonOfPair 6 4 .booked]
    purchases := [⟨.seeded 5, .seeded 1, .seeded 3, some (.seeded 2), .generated (.seeded 4),
      1800000, "10", 60, 10, 31536000000, none⟩]
    consumptions := [⟨.seeded 7, .seeded 5, .learner, none, none, none⟩] }

private def lessonCompleted (number learner : Nat) : List LedgersEvent :=
  [.other (.completion (.insert ⟨.seeded (number + 10), .seeded number, .seeded 2, false, 200000,
    3601000, none, some (.seeded 2), 7200000⟩)),
    .other (.slot (.replace (lessonOfPair number learner .completed)))]

private def lessonSettled (learner : Nat) : List LedgersEvent :=
  [.settle 1 ⟨.seeded 2, .canonical (.seeded learner), none, []⟩ 200000, .settled 1]

private def lessonClaimed (number : Nat) : List LedgersEvent :=
  [.claim 2 .learner
    { learnerAccountId := .canonical (.seeded 1)
      teacherAccountId := .canonical (.seeded 2)
      amountKopecks := .integer 200000
      paymentChannel := .other
      paymentMethodId := none
      items := [⟨some (.canonical (.seeded number)), none⟩]
      paidAt := none
      note := none },
    .check 2, .claimed 2]

private def paidSlots (covered claimed : List (RowId × Bool)) (ledgers : Ledgers) : Bool :=
  ledgers.covered = covered && ledgers.claimed = claimed

private def settlesFourth (_ learnerId : RowId) : Bool :=
  learnerId = .seeded 4

private theorem fourLessons_divided : Divided settlesFourth fourLessons where
  unpaid slotId settled := by
    rcases (Option.any_eq_true _ _).mp settled with ⟨slot, found, pair⟩
    have key : slot.id = slotId := key_of_get found
    have checked : ∀ slot, slot ∈ fourLessons.slots ->
        slot.learnerAccountId.any (settlesFourth slot.teacherAccountId) = true ->
          unpaidOutside fourLessons slot.id = true := by
      decide
    exact key ▸ checked slot (mem_of_get found) pair
  covered _ listed := absurd listed List.not_mem_nil
  priced _ listed := absurd listed List.not_mem_nil
  taught _ listed := absurd listed List.not_mem_nil
  single := List.nodup_nil

/-- One learner settles a lesson while the other one, whose first lesson a package pays for,
claims to have paid for the next. -/
theorem ledgers_exclusive_lessons : ∃ last : Ledgers,
      paidSlots [(.seeded 6, false)] [(.seeded 9, false)] last = true ∧ last.Exclusive := by
  rcases @exists_of_play _ _
    (fun ledgers event _ => ledgers.keepsToLedger settlesFourth event = true)
    Ledgers.step (fun ledgers event _ => ledgers.keepsToLedger settlesFourth event)
    (fun _ _ _ => id) (ledgersOpening fourLessons)
    (lessonCompleted 7 1 ++ lessonCompleted 9 1 ++ lessonCompleted 6 4 ++ lessonSettled 4 ++
      lessonClaimed 9)
    (paidSlots [(.seeded 6, false)] [(.seeded 9, false)]) (by decide +kernel) with
    ⟨last, runs, paid⟩
  exact ⟨last, paid, ledgers_exclusive fourLessons_divided runs⟩

/-- Money is given to a lesson that a package has paid for, and a claim is accepted for one
that is settled. -/
theorem ledgers_not_exclusive : (¬ ∀ (base : Db) (last : Ledgers),
      Runs Ledgers.step (fun _ _ _ => True) (ledgersOpening base) last ->
        ∀ entry, entry ∈ last.covered -> entry.2 = false) ∧ ¬ ∀ (base : Db) (last : Ledgers),
      Runs Ledgers.step (fun _ _ _ => True) (ledgersOpening base) last ->
        ∀ entry, entry ∈ last.claimed -> entry.2 = false := by
  refine ⟨fun always => ?_, fun always => ?_⟩
  · rcases @exists_of_play _ _ (fun _ _ _ => True) Ledgers.step (fun _ _ _ => true)
      (fun _ _ _ _ => trivial) (ledgersOpening fourLessons)
      (lessonCompleted 7 1 ++ lessonSettled 1)
      (paidSlots [(.seeded 7, true)] []) (by decide +kernel) with ⟨last, runs, paid⟩
    rw [paidSlots, Bool.and_eq_true, decide_eq_true_eq] at paid
    have clean := always _ last runs (.seeded 7, true) (by rw [paid.1]; exact List.mem_cons_self)
    cases clean
  · rcases @exists_of_play _ _ (fun _ _ _ => True) Ledgers.step (fun _ _ _ => true)
      (fun _ _ _ _ => trivial) (ledgersOpening fourLessons)
      (lessonCompleted 8 1 ++ lessonSettled 1 ++ lessonClaimed 8)
      (paidSlots [(.seeded 8, false)] [(.seeded 8, true)]) (by decide +kernel) with
      ⟨last, runs, paid⟩
    rw [paidSlots, Bool.and_eq_true, decide_eq_true_eq, decide_eq_true_eq] at paid
    have clean := always _ last runs (.seeded 8, true) (by rw [paid.2]; exact List.mem_cons_self)
    cases clean

end Payments

end LevelChannel
