import Mathlib.Data.List.Perm.Subperm
import LevelChannel.Events.Runs
import LevelChannel.Payments.LessonOrders

namespace LevelChannel

open Tables Events

namespace Payments

/-!
# Charging for a lesson twice

Three ledgers say that a lesson is paid: allocations of paid orders, package units and
claims.  The gate of the claim journal asks all three.  The one of `POST /api/payments`
asks whether the slot is booked by the learner at the price, and none of them, so whoever
pays again is charged again.
-/

/-! ## Runs -/

def confirmedByClaim (db : Db) (slotId : RowId) : Bool :=
  db.claimItems.any fun item => item.slotId = some slotId &&
    (db.claim? item.claimId).any fun claim => claim.status = .confirmed

def covered (db : Db) (slotId : RowId) : Bool :=
  db.hasDirect slotId || db.consumedByPackage slotId || confirmedByClaim db slotId

structure AcceptedOrder where
  order : PaymentOrder
  slotId : UuidText
  deriving DecidableEq

/-- A delivery of the webhook whose order is paid: its slot branch is to come, or has found
an allocation to make. -/
inductive DeliveryStage where
  | marked (invoiceId : InvoiceId)
  | checked (allocation : PaymentAllocation)
  deriving DecidableEq

def DeliveryStage.invoiceId : DeliveryStage -> InvoiceId
  | .marked invoiceId => invoiceId
  | .checked allocation => allocation.key.paymentOrderId

/-- The tables, the requests and deliveries under way, and three records: the slots orders
were accepted for, with whether they were covered, the last order of each slot, and whether
the orders of every slot have come one after the other. -/
structure LessonPay where
  card : CardDb
  requests : List (Nat × AcceptedOrder)
  deliveries : List (Nat × DeliveryStage)
  accepted : List (RowId × Bool)
  newest : List (RowId × InvoiceId)
  sequential : Bool

/-- What the other flows write: nothing of orders that name a slot but their failure, and no
allocation to a lesson.  Orders are not deleted. -/
def Foreign (card : CardDb) : Write -> Bool
  | .order (.replace row) => (card.slotIdOf row.invoiceId).isNone || row.status ≠ .paid
  | .order (.insert row) => (card.slotIdOf row.invoiceId).isNone
  | .order (.delete _) => false
  | .allocation row => row.key.kind ≠ .lessonSlot
  | _ => true

/-- A request is posted and its order stored, a delivery marks its order as paid, checks the
slot and allocates; each may stop where it is, and the other flows write what they do. -/
inductive LessonPayEvent where
  | post (request : Nat) (account : Option RowId) (invoiceId : InvoiceId) (body : PostPayment)
  | store (request : Nat)
  | abandon (request : Nat)
  | deliver (delivery : Nat) (webhook : PayDelivery)
  | check (delivery : Nat)
  | allocate (delivery : Nat)
  | lose (delivery : Nat)
  | tick (passed : Nat)
  | catalog (catalog : Catalog)
  | other (write : Write)

namespace LessonPay

variable (pay : LessonPay)

def waits (slotId : RowId) : Bool :=
  pay.requests.any fun entry => entry.2.slotId.id = slotId

def slotOf (invoiceId : InvoiceId) : Option RowId :=
  (pay.card.slotIdOf invoiceId).map UuidText.id

def delivers (slotId : RowId) : Bool :=
  pay.deliveries.any fun entry => pay.slotOf entry.2.invoiceId = some slotId

/-- The event keeps to the order in which the orders of a slot come: one is asked for when
nothing is under way for the slot, and the webhook is delivered for the last of them. -/
def inSequence : LessonPayEvent -> Bool
  | .post _ _ _ body =>
    body.slotId.all fun slotId => !pay.waits slotId.id && !pay.delivers slotId.id
  | .deliver _ webhook =>
    (pay.slotOf webhook.invoiceId).all fun slotId =>
      !pay.waits slotId && pay.newest.lookup slotId = some webhook.invoiceId
  | _ => true

/-- What an event does, where it is possible. -/
def act : LessonPayEvent -> Option LessonPay
  | .post request account invoiceId body =>
    match postPayments pay.card.base account invoiceId body with
    | .created order (some slotId) =>
      some { pay with
        requests := (request, ⟨order, slotId⟩) :: pay.requests
        accepted := (slotId.id, covered pay.card.base slotId.id) :: pay.accepted }
    | _ => some pay
  | .store request =>
    match pay.requests.lookup request with
    | none => none
    | some entry =>
      let requests := pay.requests.filter fun other => other.1 ≠ request
      let invoiceId := entry.order.invoiceId
      -- the primary key
      if (pay.card.order? invoiceId).isSome || (pay.card.slotIdOf invoiceId).isSome then
        some { pay with requests := requests }
      else
        some { pay with
          card := ⟨pay.card.base.apply (.order (.insert entry.order)),
            (invoiceId, entry.slotId) :: pay.card.slotIds⟩
          requests := requests
          newest := (entry.slotId.id, invoiceId) :: pay.newest }
  | .abandon request =>
    some { pay with requests := pay.requests.filter fun other => other.1 ≠ request }
  | .deliver delivery webhook =>
    if (pay.card.order? webhook.invoiceId).isNone then none
    else
      some { pay with
        card := pay.card.markOrderPaid webhook
        deliveries := (delivery, .marked webhook.invoiceId) :: pay.deliveries }
  | .check delivery =>
    match pay.deliveries.lookup delivery with
    | some (.marked invoiceId) =>
      let deliveries := pay.deliveries.filter fun other => other.1 ≠ delivery
      match (pay.card.order? invoiceId).bind pay.card.slotAllocation with
      | none => some { pay with deliveries := deliveries }
      | some allocation =>
        some { pay with deliveries := (delivery, .checked allocation) :: deliveries }
    | _ => none
  | .allocate delivery =>
    match pay.deliveries.lookup delivery with
    | some (.checked allocation) =>
      some { pay with
        card := { pay.card with base := pay.card.base.allocate allocation }
        deliveries := pay.deliveries.filter fun other => other.1 ≠ delivery }
    | _ => none
  | .lose delivery =>
    some { pay with deliveries := pay.deliveries.filter fun other => other.1 ≠ delivery }
  | .tick passed =>
    some { pay with card := { pay.card with base := pay.card.base.drift (.tick passed) } }
  | .catalog catalog =>
    some { pay with card := { pay.card with base := pay.card.base.drift (.catalog catalog) } }
  | .other write =>
    if Foreign pay.card write then
      some { pay with card := { pay.card with base := pay.card.base.apply write } }
    else none

def step (event : LessonPayEvent) : Option LessonPay :=
  (pay.act event).map fun after =>
    { after with sequential := pay.sequential && pay.inSequence event }

def Unpaid : LessonPayEvent -> Prop
  | .post _ account _ body => ∀ slotId learner amountKopecks tariff,
    body.slotId = some slotId -> account = some learner ->
      body.amountKopecks = some amountKopecks ->
        validatePaymentSlotBinding pay.card.base slotId.id learner amountKopecks = .ok tariff ->
          covered pay.card.base slotId.id = false
  | _ => True

def live (slotId : RowId) : List PaymentAllocation :=
  pay.card.base.allocations.filter fun allocation =>
    Db.allocatedTo slotId allocation && pay.card.base.liveAllocation allocation

/-- Orders are accepted for slots that are not covered, and, if they come one after the
other, a slot has one live allocation at most. -/
structure ChargedOnce : Prop where
  accepted : ∀ entry, entry ∈ pay.accepted -> entry.2 = false
  once : pay.sequential = true -> ∀ slotId, (pay.live slotId).length ≤ 1

end LessonPay

/-- Nothing has been ordered or allocated yet; the lessons are given. -/
def lessonPayOpening (base : Db) : LessonPay where
  card := ⟨{ base with orders := [], allocations := [] }, []⟩
  requests := []
  deliveries := []
  accepted := []
  newest := []
  sequential := true

theorem request_of_created {db : Db} {account : Option RowId} {invoiceId : InvoiceId}
    {request : PostPayment} {order : PaymentOrder} {slotId : UuidText}
    (created : postPayments db account invoiceId request = .created order (some slotId)) :
    request.slotId = some slotId ∧ request.amountKopecks = some order.amountKopecks := by
  rw [postPayments] at created
  split at created
  · cases created
  · cases created
  · next amountKopecks email valid _ =>
    have asked := (Option.filter_eq_some_iff.mp valid).1
    split at created
    · cases created
    · split at created
      · cases (postForTeacher_created created).2.2.2
      · next named given =>
        split at created
        · cases created
        · split at created
          · cases created
          · rcases postForTeacher_created created with ⟨-, amount, -, same⟩
            exact ⟨given.trans same.symm, asked.trans (congrArg some amount.symm)⟩

namespace LessonPay

variable {pay after : LessonPay} {slotId : RowId}

/-- What holds while the orders of a slot come one after the other: whatever is under way or
live for a slot belongs to its last order, and there is nothing of the kind while another
one waits to be stored. -/
structure Orderly (pay : LessonPay) : Prop where
  unique : Unique PaymentAllocation.key pay.card.base.allocations
  named : ∀ allocation, allocation ∈ pay.card.base.allocations ->
    allocation.key.kind = .lessonSlot ->
      pay.card.slotIdOf allocation.key.paymentOrderId = some allocation.key.targetId
  checked : ∀ delivery allocation, (delivery, .checked allocation) ∈ pay.deliveries ->
    allocation.key.kind = .lessonSlot ∧
      pay.card.slotIdOf allocation.key.paymentOrderId = some allocation.key.targetId
  stored : ∀ entry, entry ∈ pay.deliveries ->
    (pay.card.order? entry.2.invoiceId).isSome = true
  current : ∀ entry slotId, entry ∈ pay.deliveries ->
    pay.slotOf entry.2.invoiceId = some slotId ->
      pay.newest.lookup slotId = some entry.2.invoiceId ∧ pay.waits slotId = false
  live : ∀ slotId allocation, allocation ∈ pay.live slotId ->
    pay.newest.lookup slotId = some allocation.key.paymentOrderId ∧ pay.waits slotId = false

theorem mem_live {allocation : PaymentAllocation} :
    allocation ∈ pay.live slotId <-> allocation ∈ pay.card.base.allocations ∧
      Db.allocatedTo slotId allocation = true ∧ pay.card.base.liveAllocation allocation = true := by
  rw [live, List.mem_filter, Bool.and_eq_true]

theorem Orderly.slotOf_of_allocated (orderly : pay.Orderly) {allocation : PaymentAllocation}
    (member : allocation ∈ pay.card.base.allocations)
    (meant : Db.allocatedTo slotId allocation = true) :
    pay.slotOf allocation.key.paymentOrderId = some slotId := by
  rw [Db.allocatedTo, Bool.and_eq_true, decide_eq_true_eq, decide_eq_true_eq] at meant
  rw [slotOf, orderly.named allocation member meant.1, meant.2]
  rfl

theorem Orderly.once (orderly : pay.Orderly) (slotId : RowId) : (pay.live slotId).length ≤ 1 := by
  have keys : ((pay.live slotId).map PaymentAllocation.key).Nodup :=
    List.Nodup.sublist (List.filter_sublist.map PaymentAllocation.key) orderly.unique
  cases newest : pay.newest.lookup slotId with
  | none =>
    have nothing : pay.live slotId = [] := by
      refine List.eq_nil_iff_forall_not_mem.mpr fun allocation member => ?_
      rw [(orderly.live slotId allocation member).1] at newest
      cases newest
    rw [nothing]
    exact Nat.zero_le 1
  | some invoiceId =>
    have within : (pay.live slotId).map PaymentAllocation.key ⊆
        [⟨invoiceId, .lessonSlot, .canonical slotId⟩] := by
      intro key member
      rcases List.mem_map.mp member with ⟨allocation, listed, rfl⟩
      have last := (orderly.live slotId allocation listed).1
      rw [newest] at last
      rcases mem_live.mp listed with ⟨-, meant, -⟩
      rw [Db.allocatedTo, Bool.and_eq_true, decide_eq_true_eq, decide_eq_true_eq] at meant
      refine List.mem_singleton.mpr ?_
      rw [← meant.1, ← meant.2, Option.some.inj last]
    have bound := (List.subperm_of_subset keys within).length_le
    rwa [List.length_map] at bound

/-- What can only take live allocations away. -/
structure Less (pay after : LessonPay) : Prop where
  slotIds : after.card.slotIds = pay.card.slotIds
  newest : after.newest = pay.newest
  waits : ∀ slotId, pay.waits slotId = false -> after.waits slotId = false
  deliveries : ∀ entry, entry ∈ after.deliveries -> entry ∈ pay.deliveries
  orders : ∀ invoiceId, (pay.card.order? invoiceId).isSome = true ->
    (after.card.order? invoiceId).isSome = true
  unique : Unique PaymentAllocation.key pay.card.base.allocations ->
    Unique PaymentAllocation.key after.card.base.allocations
  allocations : ∀ allocation, allocation ∈ after.card.base.allocations ->
    allocation.key.kind = .lessonSlot -> allocation ∈ pay.card.base.allocations
  live : ∀ allocation, allocation ∈ pay.card.base.allocations ->
    allocation.key.kind = .lessonSlot ->
      (pay.card.slotIdOf allocation.key.paymentOrderId).isSome = true ->
        after.card.base.liveAllocation allocation = true ->
          pay.card.base.liveAllocation allocation = true

theorem Less.slotIdOf (less : Less pay after) (invoiceId : InvoiceId) :
    after.card.slotIdOf invoiceId = pay.card.slotIdOf invoiceId := by
  rw [CardDb.slotIdOf, CardDb.slotIdOf, less.slotIds]

theorem Orderly.less (orderly : pay.Orderly) (less : Less pay after) : after.Orderly where
  unique := less.unique orderly.unique
  named allocation member kind := by
    rw [less.slotIdOf]
    exact orderly.named allocation (less.allocations allocation member kind) kind
  checked delivery allocation member := by
    rw [less.slotIdOf]
    exact orderly.checked delivery allocation (less.deliveries _ member)
  stored entry member := less.orders _ (orderly.stored entry (less.deliveries entry member))
  current entry slotId member named := by
    rw [slotOf, less.slotIdOf] at named
    rcases orderly.current entry slotId (less.deliveries entry member) named with ⟨last, free⟩
    exact ⟨less.newest.symm ▸ last, less.waits slotId free⟩
  live slotId allocation member := by
    rcases mem_live.mp member with ⟨listed, meant, live⟩
    have kind : allocation.key.kind = .lessonSlot := by
      rw [Db.allocatedTo, Bool.and_eq_true, decide_eq_true_eq] at meant
      exact meant.1
    have before := less.allocations allocation listed kind
    have still := less.live allocation before kind
      (by rw [orderly.named allocation before kind, Option.isSome_some]) live
    rcases orderly.live slotId allocation (mem_live.mpr ⟨before, meant, still⟩) with ⟨last, free⟩
    exact ⟨less.newest.symm ▸ last, less.waits slotId free⟩

/-! ## What the events keep -/

theorem less_requests {requests : List (Nat × AcceptedOrder)}
    (fewer : ∀ entry, entry ∈ requests -> entry ∈ pay.requests) :
    Less pay { pay with requests := requests } where
  slotIds := rfl
  newest := rfl
  waits slotId free := by
    rw [waits, List.any_eq_false] at free ⊢
    exact fun entry member => free entry (fewer entry member)
  deliveries _ := id
  orders _ := id
  unique := id
  allocations _ member _ := member
  live _ _ _ _ := id

theorem less_deliveries {deliveries : List (Nat × DeliveryStage)}
    (fewer : ∀ entry, entry ∈ deliveries -> entry ∈ pay.deliveries) :
    Less pay { pay with deliveries := deliveries } where
  slotIds := rfl
  newest := rfl
  waits _ := id
  deliveries := fewer
  orders _ := id
  unique := id
  allocations _ member _ := member
  live _ _ _ _ := id

theorem less_base {base : Db} (orders : base.orders = pay.card.base.orders)
    (allocations : base.allocations = pay.card.base.allocations)
    (refunds : ∀ key, pay.card.base.refundedKopecks key ≤ base.refundedKopecks key) :
    Less pay { pay with card := { pay.card with base := base } } where
  slotIds := rfl
  newest := rfl
  waits _ := id
  deliveries _ := id
  orders invoiceId found := by
    rw [CardDb.order?, orders]
    exact found
  unique := by
    simp only [allocations]
    exact id
  allocations allocation member _ := by
    simp only [allocations] at member
    exact member
  live allocation _ _ _ live := by
    simp only [Db.liveAllocation, Db.paidOrder, orders, Bool.and_eq_true,
      decide_eq_true_eq] at live ⊢
    exact ⟨live.1, Nat.lt_of_le_of_lt (refunds allocation.key) live.2⟩

theorem less_orders {orders : List PaymentOrder}
    (kept : ∀ invoiceId, (pay.card.order? invoiceId).isSome = true ->
      (get PaymentOrder.invoiceId orders invoiceId).isSome = true)
    (paid : ∀ invoiceId, (pay.card.slotIdOf invoiceId).isSome = true ->
      ∀ order, get PaymentOrder.invoiceId orders invoiceId = some order ->
        order.status = .paid -> pay.card.order? invoiceId = some order) :
    Less pay { pay with card := { pay.card with base := { pay.card.base with
      orders := orders } } } where
  slotIds := rfl
  newest := rfl
  waits _ := id
  deliveries _ := id
  orders := kept
  unique := id
  allocations _ member _ := member
  live allocation _ _ named live := by
    simp only [Db.liveAllocation, Db.paidOrder, Bool.and_eq_true, Option.any_eq_true,
      decide_eq_true_eq] at live ⊢
    rcases live with ⟨⟨order, read, status⟩, refunded⟩
    exact ⟨⟨order, paid _ named order read status, status⟩, refunded⟩

theorem mem_allocate {db : Db} {row allocation : PaymentAllocation} :
    allocation ∈ (db.allocate row).allocations -> allocation ∈ db.allocations ∨ (allocation = row ∧
        get PaymentAllocation.key db.allocations row.key = none) := by
  rw [Db.allocate]
  cases found : get PaymentAllocation.key db.allocations row.key with
  | some old => exact Or.inl
  | none =>
    intro member
    rcases List.mem_append.mp member with before | new
    · exact Or.inl before
    · exact Or.inr ⟨List.mem_singleton.mp new, rfl⟩

theorem allocate_eq (db : Db) (row : PaymentAllocation) :
    db.allocate row = { db with allocations := (db.allocate row).allocations } := by
  rw [Db.allocate]
  split
  · rfl
  · rfl

theorem unique_allocate {db : Db} (unique : Unique PaymentAllocation.key db.allocations)
    (row : PaymentAllocation) : Unique PaymentAllocation.key (db.allocate row).allocations := by
  rw [Db.allocate]
  cases fresh : get PaymentAllocation.key db.allocations row.key with
  | some old => exact unique
  | none => exact unique.insert fresh

theorem less_allocate {row : PaymentAllocation} (kind : row.key.kind ≠ .lessonSlot) :
    Less pay { pay with card := { pay.card with base := pay.card.base.allocate row } } := by
  rw [allocate_eq]
  exact {
    slotIds := rfl
    newest := rfl
    waits := fun _ => id
    deliveries := fun _ => id
    orders := fun _ => id
    unique := fun unique => unique_allocate unique row
    allocations := fun allocation member lesson => by
      rcases mem_allocate member with before | ⟨rfl, -⟩
      · exact before
      · exact absurd lesson kind
    live := fun _ _ _ _ => id }

theorem less_foreign {write : Write} (foreign : Foreign pay.card write = true) :
    Less pay { pay with card := { pay.card with base := pay.card.base.apply write } } := by
  cases write with
  | order change =>
    cases change with
    | insert row =>
      refine less_orders (fun invoiceId found => ?_) fun invoiceId named order read _ => ?_
      · rcases Option.isSome_iff_exists.mp found with ⟨old, known⟩
        exact Option.isSome_iff_exists.mpr ⟨old, get_insert_of_some row known⟩
      · have other : invoiceId ≠ row.invoiceId := by
          rintro rfl
          rw [Option.isNone_iff_eq_none.mp foreign] at named
          cases named
        exact (get_apply_of_ne (.insert row) other).symm.trans read
    | replace row =>
      refine less_orders (fun invoiceId found => ?_) fun invoiceId named order read paid => ?_
      · rw [get_replaced, Option.isSome_map]
        exact found
      · have other : invoiceId ≠ row.invoiceId := by
          rintro rfl
          simp only [get_replaced, if_true] at read
          rcases Option.map_eq_some_iff.mp read with ⟨-, -, rfl⟩
          simp only [Foreign, Bool.or_eq_true, decide_eq_true_eq] at foreign
          rcases foreign with unnamed | unpaid
          · rw [Option.isNone_iff_eq_none.mp unnamed] at named
            cases named
          · exact unpaid paid
        exact (get_replace_of_ne row other).symm.trans read
    | delete row => cases foreign
  | allocation row =>
    have kind : row.key.kind ≠ .lessonSlot := of_decide_eq_true foreign
    exact less_allocate kind
  | reversal row =>
    refine less_base rfl rfl fun key => ?_
    simp only [Db.refundedKopecks, Db.apply, total_append]
    exact Nat.le_add_right _ _
  | attempt change => exact less_base rfl rfl fun _ => Nat.le_refl _
  | gatewayRefund row => exact less_base rfl rfl fun _ => Nat.le_refl _
  | purchase change => exact less_base rfl rfl fun _ => Nat.le_refl _
  | consumption change => exact less_base rfl rfl fun _ => Nat.le_refl _
  | slot change => exact less_base rfl rfl fun _ => Nat.le_refl _
  | completion change => exact less_base rfl rfl fun _ => Nat.le_refl _
  | settlement row => exact less_base rfl rfl fun _ => Nat.le_refl _
  | settlementCompletion row => exact less_base rfl rfl fun _ => Nat.le_refl _
  | erasure row => exact less_base rfl rfl fun _ => Nat.le_refl _
  | settling change => exact less_base rfl rfl fun _ => Nat.le_refl _
  | claim change => exact less_base rfl rfl fun _ => Nat.le_refl _
  | claimItem row => exact less_base rfl rfl fun _ => Nat.le_refl _

theorem Orderly.post (orderly : pay.Orderly) (request : Nat) (order : PaymentOrder)
    (slotId : UuidText) (accepted : List (RowId × Bool)) (free : pay.delivers slotId.id = false)
    (unpaid : pay.live slotId.id = []) :
    Orderly { pay with
      requests := (request, ⟨order, slotId⟩) :: pay.requests
      accepted := accepted } where
  unique := orderly.unique
  named := orderly.named
  checked := orderly.checked
  stored := orderly.stored
  current entry other member named := by
    rcases orderly.current entry other member named with ⟨last, waits⟩
    refine ⟨last, ?_⟩
    have apart : slotId.id ≠ other := by
      rintro rfl
      rw [delivers, List.any_eq_false] at free
      exact free entry member (decide_eq_true named)
    rw [LessonPay.waits] at waits ⊢
    rw [List.any_cons, waits, decide_eq_false apart, Bool.or_false]
  live other allocation member := by
    rcases orderly.live other allocation member with ⟨last, waits⟩
    refine ⟨last, ?_⟩
    have apart : slotId.id ≠ other := by
      rintro rfl
      have none : allocation ∈ pay.live slotId.id := member
      rw [unpaid] at none
      cases none
    rw [LessonPay.waits] at waits ⊢
    rw [List.any_cons, waits, decide_eq_false apart, Bool.or_false]

theorem slotIdOf_cons {invoiceId : InvoiceId} {slotId : UuidText} {other : InvoiceId}
    (different : invoiceId ≠ other) :
    CardDb.slotIdOf ⟨pay.card.base, (invoiceId, slotId) :: pay.card.slotIds⟩ other =
      pay.card.slotIdOf other := by
  simp only [CardDb.slotIdOf, Tables.get, List.find?_cons, decide_eq_false different]

theorem Orderly.name (orderly : pay.Orderly) {requests : List (Nat × AcceptedOrder)}
    {invoiceId : InvoiceId} {slotId : UuidText}
    (fewer : ∀ entry, entry ∈ requests -> entry ∈ pay.requests)
    (fresh : pay.card.slotIdOf invoiceId = none)
    (unasked : ∀ entry, entry ∈ pay.deliveries -> entry.2.invoiceId ≠ invoiceId)
    (waited : pay.waits slotId.id = true) :
    Orderly { pay with
      card := ⟨pay.card.base, (invoiceId, slotId) :: pay.card.slotIds⟩
      requests := requests
      newest := (slotId.id, invoiceId) :: pay.newest } := by
  have other : ∀ named, pay.card.slotIdOf named ≠ none -> invoiceId ≠ named := by
    rintro named known rfl
    exact known fresh
  have apart : ∀ slot, pay.waits slot = false -> slot ≠ slotId.id := by
    rintro slot free rfl
    rw [waited] at free
    cases free
  have last : ∀ slot found, pay.newest.lookup slot = some found ∧ pay.waits slot = false ->
      List.lookup slot ((slotId.id, invoiceId) :: pay.newest) = some found ∧
        (requests.any fun entry => entry.2.slotId.id = slot) = false := by
    rintro slot found ⟨newest, free⟩
    refine ⟨?_, ?_⟩
    · rw [List.lookup_cons, beq_eq_false_iff_ne.mpr (apart slot free)]
      exact newest
    · rw [LessonPay.waits, List.any_eq_false] at free
      exact List.any_eq_false.mpr fun entry member => free entry (fewer entry member)
  refine ⟨orderly.unique, fun allocation member kind => ?_, fun delivery allocation member => ?_,
    orderly.stored, fun entry slot member named => ?_, fun slot allocation member => ?_⟩
  · have before := orderly.named allocation member kind
    exact (slotIdOf_cons (other _ (by rw [before]; exact Option.some_ne_none _))).trans before
  · have before := orderly.checked delivery allocation member
    exact ⟨before.1, (slotIdOf_cons (other _ (by
      rw [before.2]
      exact Option.some_ne_none _))).trans before.2⟩
  · have same : pay.slotOf entry.2.invoiceId = some slot := by
      rw [slotOf, slotIdOf_cons (unasked entry member).symm] at named
      exact named
    exact last slot _ (orderly.current entry slot member same)
  · exact last slot _ (orderly.live slot allocation member)

theorem order?_markOrderPaid_of_ne {card : CardDb} {webhook : PayDelivery}
    {invoiceId : InvoiceId} (different : invoiceId ≠ webhook.invoiceId) :
    (card.markOrderPaid webhook).order? invoiceId = card.order? invoiceId := by
  rw [CardDb.markOrderPaid]
  split
  · rfl
  · next order read =>
    split
    · rfl
    · have named : order.invoiceId = webhook.invoiceId := key_of_get read
      exact get_replace_of_ne _ (named ▸ different)

theorem markOrderPaid_reversals (card : CardDb) (webhook : PayDelivery) :
    (card.markOrderPaid webhook).base.reversals = card.base.reversals := by
  rw [CardDb.markOrderPaid]
  split
  · rfl
  · split
    · rfl
    · rfl

theorem Orderly.deliver (orderly : pay.Orderly) (delivery : Nat) {webhook : PayDelivery}
    (known : (pay.card.order? webhook.invoiceId).isSome = true)
    (last : ∀ slotId, pay.slotOf webhook.invoiceId = some slotId ->
      pay.newest.lookup slotId = some webhook.invoiceId ∧ pay.waits slotId = false) :
    Orderly { pay with
      card := pay.card.markOrderPaid webhook
      deliveries := (delivery, .marked webhook.invoiceId) :: pay.deliveries } := by
  have keeps := CardDb.markOrderPaid_keeps pay.card webhook
  have rows := CardDb.markOrderPaid_allocations pay.card webhook
  have slots : ∀ invoiceId, (pay.card.markOrderPaid webhook).slotIdOf invoiceId =
      pay.card.slotIdOf invoiceId := by
    intro invoiceId
    rw [CardDb.slotIdOf, CardDb.slotIdOf, keeps.slotIds]
  have found : ∀ invoiceId, (pay.card.order? invoiceId).isSome = true ->
      ((pay.card.markOrderPaid webhook).order? invoiceId).isSome = true := by
    intro invoiceId there
    rcases Option.isSome_iff_exists.mp there with ⟨order, read⟩
    rcases keeps.orders invoiceId order read with ⟨later, readLater, -⟩
    exact Option.isSome_iff_exists.mpr ⟨later, readLater⟩
  refine ⟨?_, fun allocation member kind => ?_, fun delivery allocation member => ?_,
    fun entry member => ?_, fun entry slotId member named => ?_, fun slotId allocation member => ?_⟩
  · rw [rows]
    exact orderly.unique
  · rw [rows] at member
    exact (slots _).trans (orderly.named allocation member kind)
  · rcases List.mem_cons.mp member with new | old
    · cases new
    · exact ⟨(orderly.checked delivery allocation old).1,
        (slots _).trans (orderly.checked delivery allocation old).2⟩
  · rcases List.mem_cons.mp member with rfl | old
    · exact found _ known
    · exact found _ (orderly.stored entry old)
  · rw [slotOf, slots] at named
    rcases List.mem_cons.mp member with rfl | old
    · exact last slotId named
    · exact orderly.current entry slotId old named
  · rcases mem_live.mp member with ⟨listed, meant, live⟩
    rw [rows] at listed
    by_cases same : allocation.key.paymentOrderId = webhook.invoiceId
    · have named := orderly.slotOf_of_allocated listed meant
      rw [same] at named ⊢
      exact last slotId named
    · refine orderly.live slotId allocation (mem_live.mpr ⟨listed, meant, ?_⟩)
      have order := @order?_markOrderPaid_of_ne pay.card webhook _ same
      rw [CardDb.order?, CardDb.order?] at order
      simp only [Db.liveAllocation, Db.paidOrder, Db.refundedKopecks, order,
        markOrderPaid_reversals] at live ⊢
      exact live

theorem Orderly.check (orderly : pay.Orderly) {delivery : Nat} {invoiceId : InvoiceId}
    {deliveries : List (Nat × DeliveryStage)} {order : PaymentOrder}
    {allocation : PaymentAllocation} (marked : (delivery, .marked invoiceId) ∈ pay.deliveries)
    (fewer : ∀ entry, entry ∈ deliveries -> entry ∈ pay.deliveries)
    (read : pay.card.order? invoiceId = some order)
    (calls : pay.card.slotAllocation order = some allocation) :
    Orderly { pay with deliveries := (delivery, .checked allocation) :: deliveries } := by
  have shape : allocation.key.paymentOrderId = invoiceId ∧ allocation.key.kind = .lessonSlot ∧
      pay.card.slotIdOf allocation.key.paymentOrderId = some allocation.key.targetId := by
    rw [CardDb.slotAllocation] at calls
    split at calls
    · next slotId customer named _ =>
      split at calls
      · cases calls
      · injection calls with calls
        subst calls
        have same : order.invoiceId = invoiceId := key_of_get read
        exact ⟨same, rfl, named⟩
    · cases calls
  refine ⟨orderly.unique, orderly.named, fun other row member => ?_, fun entry member => ?_,
    fun entry slotId member named => ?_, orderly.live⟩
  · rcases List.mem_cons.mp member with new | old
    · injection new with _ new
      injection new with new
      subst new
      exact shape.2
    · exact orderly.checked other row (fewer _ old)
  · rcases List.mem_cons.mp member with rfl | old
    · refine Option.isSome_iff_exists.mpr ⟨order, ?_⟩
      exact (congrArg pay.card.order? shape.1).trans read
    · exact orderly.stored entry (fewer entry old)
  · rcases List.mem_cons.mp member with rfl | old
    · have current := orderly.current (delivery, .marked invoiceId) slotId marked
      have same : DeliveryStage.invoiceId (.checked allocation) = invoiceId := shape.1
      rw [same] at named ⊢
      exact current named
    · exact orderly.current entry slotId (fewer entry old) named

theorem Orderly.allocate (orderly : pay.Orderly) {delivery : Nat}
    {deliveries : List (Nat × DeliveryStage)} {allocation : PaymentAllocation}
    (checked : (delivery, .checked allocation) ∈ pay.deliveries)
    (fewer : ∀ entry, entry ∈ deliveries -> entry ∈ pay.deliveries) :
    Orderly { pay with
      card := { pay.card with base := pay.card.base.allocate allocation }
      deliveries := deliveries } := by
  rcases orderly.checked delivery allocation checked with ⟨lesson, named⟩
  rw [allocate_eq]
  refine ⟨unique_allocate orderly.unique allocation, fun row member kind => ?_,
    fun other row member => orderly.checked other row (fewer _ member),
    fun entry member => orderly.stored entry (fewer entry member),
    fun entry slotId member => orderly.current entry slotId (fewer entry member),
    fun slotId row member => ?_⟩
  · rcases mem_allocate member with before | ⟨rfl, -⟩
    · exact orderly.named row before kind
    · exact named
  · rcases mem_live.mp member with ⟨listed, meant, live⟩
    rcases mem_allocate listed with before | ⟨rfl, -⟩
    · exact orderly.live slotId row (mem_live.mpr ⟨before, meant, live⟩)
    · refine orderly.current (delivery, .checked row) slotId checked ?_
      rw [Db.allocatedTo, Bool.and_eq_true, decide_eq_true_eq, decide_eq_true_eq] at meant
      have same : row.key.targetId = .canonical slotId := meant.2
      rw [slotOf]
      exact (congrArg (Option.map UuidText.id) named).trans (by rw [same]; rfl)

/-! ## Runs keep it -/

/-- What every event of a run keeps where no order is asked for a covered slot. -/
structure Consistent (pay : LessonPay) : Prop where
  accepted : ∀ entry, entry ∈ pay.accepted -> entry.2 = false
  orderly : pay.sequential = true -> Orderly pay

theorem Orderly.sequential (orderly : pay.Orderly) (sequential : Bool) :
    Orderly { pay with sequential := sequential } :=
  ⟨orderly.unique, orderly.named, orderly.checked, orderly.stored, orderly.current, orderly.live⟩

theorem live_of_not_covered (free : covered pay.card.base slotId = false) :
    pay.live slotId = [] := by
  simp only [covered, Bool.or_eq_false_iff] at free
  refine List.filter_eq_nil_iff.mpr fun allocation member => ?_
  exact List.any_eq_false.mp free.1.1 allocation member

/-- What an event keeps: it accepts orders for slots that are not covered, and those of a
slot go on one after the other. -/
structure Keeps (pay : LessonPay) (event : LessonPayEvent) (after : LessonPay) : Prop where
  accepted : ∀ entry, entry ∈ after.accepted -> entry ∈ pay.accepted ∨ entry.2 = false
  orderly : pay.inSequence event = true -> pay.Orderly -> after.Orderly

theorem keeps_of_less {event : LessonPayEvent} (less : Less pay after)
    (accepted : after.accepted = pay.accepted) : Keeps pay event after :=
  ⟨fun _ member => Or.inl (accepted ▸ member), fun _ orderly => orderly.less less⟩

theorem keeps_post {request : Nat} {account : Option RowId} {invoiceId : InvoiceId}
    {body : PostPayment} (unpaid : pay.Unpaid (.post request account invoiceId body))
    (acted : pay.act (.post request account invoiceId body) = some after) :
    Keeps pay (.post request account invoiceId body) after := by
  rw [act] at acted
  split at acted
  · next order slotId created =>
    injection acted with acted
    subst acted
    rcases request_of_created created with ⟨asked, amount⟩
    rcases binding_of_created created with ⟨-, -, learner, signedIn, tariff, bound⟩
    have free := unpaid slotId learner _ tariff asked signedIn amount bound
    refine ⟨fun entry member => ?_, fun follows orderly => ?_⟩
    · rcases List.mem_cons.mp member with rfl | before
      · exact Or.inr free
      · exact Or.inl before
    · simp only [inSequence, asked, Option.all_some, Bool.and_eq_true,
        Bool.not_eq_true'] at follows
      exact orderly.post request order slotId _ follows.2 (live_of_not_covered free)
  · injection acted with acted
    subst acted
    exact ⟨fun _ => Or.inl, fun _ => id⟩

theorem keeps_store {request : Nat} (acted : pay.act (.store request) = some after) :
    Keeps pay (.store request) after := by
  rw [act] at acted
  have dropped : ∀ entry,
      entry ∈ (pay.requests.filter fun other => other.1 ≠ request) -> entry ∈ pay.requests :=
    fun _ member => (List.mem_filter.mp member).1
  split at acted
  · cases acted
  · next entry found =>
    dsimp only at acted
    split at acted
    · injection acted with acted
      subst acted
      exact keeps_of_less (less_requests dropped) rfl
    · next absent =>
      injection acted with acted
      subst acted
      simp only [Bool.or_eq_true, not_or, Bool.not_eq_true, Option.isSome_eq_false_iff,
        Option.isNone_iff_eq_none] at absent
      have foreign : Foreign pay.card (.order (.insert entry.order)) = true := by
        rw [Foreign, absent.2]
        rfl
      refine ⟨fun _ => Or.inl, fun _ orderly => ?_⟩
      have inserted := orderly.less (less_foreign foreign)
      refine inserted.name dropped absent.2 (fun other member same => ?_) ?_
      · have there := orderly.stored other member
        rw [same, absent.1] at there
        cases there
      · exact List.any_eq_true.mpr ⟨(request, entry), mem_of_lookup found, decide_eq_true rfl⟩

theorem keeps_deliver {delivery : Nat} {webhook : PayDelivery}
    (acted : pay.act (.deliver delivery webhook) = some after) :
    Keeps pay (.deliver delivery webhook) after := by
  rw [act] at acted
  split at acted
  · cases acted
  · next known =>
    injection acted with acted
    subst acted
    refine ⟨fun _ => Or.inl, fun follows orderly => ?_⟩
    refine orderly.deliver delivery ?_ fun slotId named => ?_
    · exact Option.isSome_iff_ne_none.mpr fun none => known (Option.isNone_iff_eq_none.mpr none)
    · simp only [inSequence, named, Option.all_some, Bool.and_eq_true,
        Bool.not_eq_true', decide_eq_true_eq] at follows
      exact ⟨follows.2, follows.1⟩

theorem keeps_check {delivery : Nat} (acted : pay.act (.check delivery) = some after) :
    Keeps pay (.check delivery) after := by
  rw [act] at acted
  have filtered : ∀ entry,
      entry ∈ (pay.deliveries.filter fun other => other.1 ≠ delivery) ->
        entry ∈ pay.deliveries :=
    fun _ member => (List.mem_filter.mp member).1
  split at acted
  · next invoiceId found =>
    dsimp only at acted
    split at acted
    · injection acted with acted
      subst acted
      exact keeps_of_less (less_deliveries filtered) rfl
    · next allocation called =>
      injection acted with acted
      subst acted
      rcases Option.bind_eq_some_iff.mp called with ⟨order, read, calls⟩
      exact ⟨fun _ => Or.inl, fun _ orderly =>
        orderly.check (mem_of_lookup found) filtered read calls⟩
  · cases acted

theorem keeps_of_act {event : LessonPayEvent} (unpaid : pay.Unpaid event)
    (acted : pay.act event = some after) : Keeps pay event after := by
  cases event with
  | post request account invoiceId body => exact keeps_post unpaid acted
  | store request => exact keeps_store acted
  | abandon request =>
    injection acted with acted
    subst acted
    exact keeps_of_less (less_requests fun _ member => (List.mem_filter.mp member).1) rfl
  | deliver delivery webhook => exact keeps_deliver acted
  | check delivery => exact keeps_check acted
  | allocate delivery =>
    rw [act] at acted
    split at acted
    · next allocation found =>
      injection acted with acted
      subst acted
      exact ⟨fun _ => Or.inl, fun _ orderly =>
        orderly.allocate (mem_of_lookup found) fun _ member => (List.mem_filter.mp member).1⟩
    · cases acted
  | lose delivery =>
    injection acted with acted
    subst acted
    exact keeps_of_less (less_deliveries fun _ member => (List.mem_filter.mp member).1) rfl
  | tick passed =>
    injection acted with acted
    subst acted
    exact keeps_of_less (less_base rfl rfl fun _ => Nat.le_refl _) rfl
  | catalog catalog =>
    injection acted with acted
    subst acted
    exact keeps_of_less (less_base rfl rfl fun _ => Nat.le_refl _) rfl
  | other write =>
    rw [act] at acted
    split at acted
    · next foreign =>
      injection acted with acted
      subst acted
      exact keeps_of_less (less_foreign foreign) rfl
    · cases acted

theorem Consistent.step (consistent : pay.Consistent) {event : LessonPayEvent}
    (unpaid : pay.Unpaid event) (stepped : pay.step event = some after) : after.Consistent := by
  rcases Option.map_eq_some_iff.mp stepped with ⟨middle, acted, rfl⟩
  have keeps := keeps_of_act unpaid acted
  refine ⟨fun entry member => ?_, fun flag => ?_⟩
  · rcases keeps.accepted entry member with before | free
    · exact consistent.accepted entry before
    · exact free
  · rcases Bool.and_eq_true_iff.mp flag with ⟨sequential, follows⟩
    exact (keeps.orderly follows (consistent.orderly sequential)).sequential _

theorem opening_consistent (base : Db) : (lessonPayOpening base).Consistent := by
  refine ⟨?_, fun _ => ⟨List.nodup_nil, ?_, ?_, ?_, ?_, ?_⟩⟩
  · intro entry member
    cases member
  · intro allocation member
    cases member
  · intro delivery allocation member
    cases member
  · intro entry member
    cases member
  · intro entry slotId member
    cases member
  · intro slotId allocation member
    cases member

end LessonPay

/-- Where no order for a slot is asked for while the slot is covered, none is accepted for a
covered one, and a slot whose orders come one after the other is charged for once. -/
theorem lesson_charged_once {base : Db} {last : LessonPay}
    (runs : Runs LessonPay.step (fun pay event _ => pay.Unpaid event) (lessonPayOpening base)
      last) : last.ChargedOnce := by
  have consistent := runs.keeps (LessonPay.opening_consistent base)
    fun _ _ _ before stepped unpaid => before.step unpaid stepped
  exact ⟨consistent.accepted, fun sequential slotId =>
    (consistent.orderly sequential).once slotId⟩

namespace LessonPay

def asksForUncovered (pay : LessonPay) : LessonPayEvent -> Bool
  | .post _ _ _ body => body.slotId.all fun slotId => !covered pay.card.base slotId.id
  | _ => true

theorem unpaid_of_asksForUncovered (pay : LessonPay) (event : LessonPayEvent) (_ : LessonPay)
    (asks : pay.asksForUncovered event = true) : pay.Unpaid event := by
  cases event with
  | post request account invoiceId body =>
    intro slotId learner amountKopecks tariff named _ _ _
    rw [asksForUncovered, named, Option.all_some, Bool.not_eq_true'] at asks
    exact asks
  | store | abandon | deliver | check | allocate | lose | tick | catalog | other => exact trivial

end LessonPay

private def chargedLesson : Db :=
  { Db.empty with
    catalog := { Catalog.empty with
      accountsByEmail := fun email => if email = "ann@example.com" then [.seeded 1] else []
      operatorManaged := fun _ => true }
    slots := [⟨.seeded 7, .seeded 2, 1000, 60, .booked, false, some (.seeded 1), none,
      some 200000, none, none, none, none, 0⟩] }

private def payForLesson (number : Nat) : List LessonPayEvent :=
  let invoiceId : InvoiceId := .generated (.seeded number)
  [.post number (some (.seeded 1)) invoiceId
    ⟨some 200000, "ann@example.com", true, some (.canonical (.seeded 7)), none⟩,
    .store number, .deliver number ⟨invoiceId, some "1"⟩, .check number, .allocate number]

/-- The orders came one after the other, and the lesson has so many live allocations. -/
private def chargedTimes (times : Nat) (pay : LessonPay) : Bool :=
  pay.sequential && (pay.live (.seeded 7)).length = times

theorem lesson_charged_once_paid :
    ∃ last : LessonPay, chargedTimes 1 last = true ∧ last.ChargedOnce := by
  rcases exists_of_play LessonPay.step LessonPay.unpaid_of_asksForUncovered
    (lessonPayOpening chargedLesson) (payForLesson 1) (chargedTimes 1) (by decide +kernel) with
    ⟨last, runs, charged⟩
  exact ⟨last, charged, lesson_charged_once runs⟩

/-- A second order for the lesson that is paid is accepted, and charged for. -/
theorem lesson_charged_twice : ¬ ∀ (base : Db) (last : LessonPay),
      Runs LessonPay.step (fun _ _ _ => True) (lessonPayOpening base) last ->
        last.ChargedOnce := by
  intro always
  rcases @exists_of_play _ _ (fun _ _ _ => True) LessonPay.step (fun _ _ _ => true)
    (fun _ _ _ _ => trivial) (lessonPayOpening chargedLesson) (payForLesson 1 ++ payForLesson 2)
    (chargedTimes 2) (by decide +kernel) with ⟨last, runs, charged⟩
  rw [chargedTimes, Bool.and_eq_true, decide_eq_true_eq] at charged
  have once := (always chargedLesson last runs).once charged.1 (.seeded 7)
  rw [charged.2] at once
  exact absurd once (by decide)

end Payments

end LevelChannel
