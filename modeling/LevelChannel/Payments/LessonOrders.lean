import LevelChannel.Payments.PaidState

namespace LevelChannel

open Tables

namespace Payments

/-!
# Card payments for a lesson

An order may name a slot.  The route that creates it checks the slot against the account
of the session; the webhook that reports the payment checks it again, against the account
that has the e-mail of the order, and then allocates the amount of the order to the slot.
The e-mail is whatever the payer typed.
-/

/-- The tables, and the key `slotId` in the metadata of orders. -/
structure CardDb where
  base : Db
  slotIds : List (InvoiceId × UuidText)

inductive SlotBindingReason where
  | notFound
  | notOwner
  | notInPayableState
  | tariffMismatch
  deriving DecidableEq, Repr

/-- `KOPECKS_TOLERANCE` -/
def kopecksTolerance : Nat := 1

/-- `validatePaymentSlotBinding`; the tariff's amount, if there is one. -/
def validatePaymentSlotBinding (db : Db) (slotId learnerAccountId : RowId)
    (requestedKopecks : Nat) : Except SlotBindingReason (Option Nat) :=
  match db.slot? slotId with
  | none => .error .notFound
  | some slot =>
    if slot.learnerAccountId ≠ some learnerAccountId then .error .notOwner
    else if slot.status ≠ .booked then .error .notInPayableState
    else
      match db.expectedAmountKopecks slot with
      | none => .ok none
      | some tariffAmountKopecks =>
        if kopecksTolerance < max (requestedKopecks - tariffAmountKopecks)
            (tariffAmountKopecks - requestedKopecks) then .error .tariffMismatch
        else .ok (some tariffAmountKopecks)

/-- `normalizeEmail`.  The Kelvin sign is the only other letter with an ASCII one below it. -/
def normalizeEmail (value : String) : String :=
  String.ofList ((jsTrim value).toList.map fun char =>
    if char.toNat = 0x212a then 'k' else char.toLower)

def isLocalChar (char : Char) : Bool :=
  char.isAlphanum || ".!#$%&'*+/=?^_\x60\x7b|\x7d~-".toList.contains char

def isLabelChar (char : Char) : Bool :=
  char.isAlphanum || char = '-'

/-- The first check of `validateCustomerEmail` that an address does not pass. -/
def customerEmailProblem (email : String) : Option String :=
  if email.isEmpty then some "required"
  else if 254 < jsLength email then some "too_long"
  else if email.toList.any isJsSpace then some "spaces"
  else
    match email.toList.splitOn '@' with
    | [localPart, domainPart] =>
      let domainLabels := domainPart.splitOn '.'
      if localPart.isEmpty || domainPart.isEmpty then some "format"
      else if 64 < localPart.length then some "local_too_long"
      else if (localPart.splitOn '.').any List.isEmpty then some "local_dots"
      else if !localPart.all isLocalChar then some "local_chars"
      -- two dots in a row leave an empty label
      else if (domainLabels.drop 1).dropLast.any List.isEmpty || domainLabels.length < 2 then
        some "domain_format"
      else if domainLabels.any fun label => label.isEmpty || 63 < label.length ||
          label.head? = some '-' || label.getLast? = some '-' || !label.all isLabelChar then
        some "domain_label"
      else if (domainLabels.getLastD []).length < 2 then some "tld"
      else none
    | _ => some "format"

/-- `validateCustomerEmail`: the address, if it is one. -/
def validateCustomerEmail (value : String) : Option String :=
  let email := normalizeEmail value
  if (customerEmailProblem email).isNone then some email else none

def getAccountByEmail (db : Db) (email : String) : Option RowId :=
  (db.catalog.accountsByEmail (normalizeEmail email)).head?

/-- The body of `POST /api/payments`, after parsing.  The amount is
`Math.round(Number(body.amountRub) * 100)`, the slot is absent if its id has not the form of
one, and `teacher` is what is derived when there is no slot. -/
structure PostPayment where
  amountKopecks : Option Nat
  customerEmail : String
  personalDataConsentAccepted : Bool
  slotId : Option UuidText
  teacher : Option RowId
  deriving DecidableEq

inductive PostPaymentReply where
  | refused (status : Nat) (error : String)
  | created (order : PaymentOrder) (slotId : Option UuidText)
  deriving DecidableEq

def isValidPaymentAmount (amountKopecks : Nat) : Bool :=
  10 * 100 ≤ amountKopecks && amountKopecks ≤ 50000 * 100

def createCloudPaymentsOrder (invoiceId : InvoiceId) (now amountKopecks : Nat)
    (customerEmail : String) (teacherAccountId : RowId) : PaymentOrder where
  invoiceId := invoiceId
  amountKopecks := amountKopecks
  status := .pending
  provider := .cloudpayments
  providerTransactionId := none
  customerEmail := some customerEmail
  metadataAccountId := none
  metadataPackageId := none
  metadataPackageSlug := none
  metadataPackageDurationMinutes := none
  teacherAccountId := teacherAccountId
  grantedByTeacherId := none
  createdAt := now
  paidAt := none

def postForTeacher (db : Db) (invoiceId : InvoiceId) (amountKopecks : Nat) (email : String)
    (slotId : Option UuidText) (teacher : Option RowId) : PostPaymentReply :=
  match teacher with
  | none => .refused 500 "teacher_resolution_failed"
  | some teacher =>
    if db.catalog.operatorManaged teacher then
      .created (createCloudPaymentsOrder invoiceId db.clock amountKopecks email teacher) slotId
    else .refused 422 "plan_4_required"

/-- `POST /api/payments`, in one state of the database; `account` is that of the session. -/
def postPayments (db : Db) (account : Option RowId) (invoiceId : InvoiceId)
    (request : PostPayment) : PostPaymentReply :=
  match request.amountKopecks.filter isValidPaymentAmount,
    validateCustomerEmail request.customerEmail with
  | none, _ => .refused 400 "invalid_amount"
  | some _, none => .refused 400 "invalid_email"
  | some amountKopecks, some email =>
    if request.personalDataConsentAccepted = false then .refused 400 "consent_required"
    else
      match request.slotId with
      | none => postForTeacher db invoiceId amountKopecks email none request.teacher
      | some slotId =>
        match account with
        | none => .refused 401 "session_required"
        | some account =>
          match validatePaymentSlotBinding db slotId.id account amountKopecks with
          | .error _ => .refused 403 "slot_binding"
          | .ok _ =>
            postForTeacher db invoiceId amountKopecks email (some slotId)
              ((db.slot? slotId.id).map LessonSlot.teacherAccountId)

/-! ## The webhook -/

structure PayDelivery where
  invoiceId : InvoiceId
  transactionId : Option String
  deriving DecidableEq

namespace CardDb

variable (db : CardDb)

def order? (invoiceId : InvoiceId) : Option PaymentOrder :=
  get PaymentOrder.invoiceId db.base.orders invoiceId

/-- `order.metadata.slotId` -/
def slotIdOf (invoiceId : InvoiceId) : Option UuidText :=
  (get Prod.fst db.slotIds invoiceId).map Prod.snd

def paidRow (now : Nat) (transactionId : Option String) (order : PaymentOrder) : PaymentOrder :=
  { order with
    status := .paid
    paidAt := order.paidAt.or (some now)
    providerTransactionId := transactionId.or order.providerTransactionId }

/-- `markOrderPaid`, as far as the branch below reads the order. -/
def markOrderPaid (delivery : PayDelivery) : CardDb :=
  match db.order? delivery.invoiceId with
  | none => db
  | some order =>
    if order.status = .paid then db
    else
      let paid := paidRow db.base.clock delivery.transactionId order
      { db with base := db.base.apply (.order (.replace paid)) }

def slotAllocation (order : PaymentOrder) : Option PaymentAllocation :=
  match db.slotIdOf order.invoiceId, order.customerEmail.bind (getAccountByEmail db.base) with
  | some slotId, some customerAccount =>
    match validatePaymentSlotBinding db.base slotId.id customerAccount order.amountKopecks with
    | .error _ => none
    | .ok _ => some ⟨⟨order.invoiceId, .lessonSlot, slotId⟩, order.amountKopecks⟩
  | _, _ => none

def allocateSlot (invoiceId : InvoiceId) : CardDb :=
  match (db.order? invoiceId).bind db.slotAllocation with
  | none => db
  | some allocation => { db with base := db.base.allocate allocation }

def payWebhook (delivery : PayDelivery) : CardDb :=
  (db.markOrderPaid delivery).allocateSlot delivery.invoiceId

def payWebhooks (deliveries : List PayDelivery) : CardDb :=
  deliveries.foldl payWebhook db

def allocationsTo (invoiceId : InvoiceId) (slotId : RowId) : List PaymentAllocation :=
  db.base.allocations.filter fun allocation =>
    Db.allocatedTo slotId allocation && allocation.key.paymentOrderId = invoiceId

end CardDb

theorem postForTeacher_created {db : Db} {invoiceId : InvoiceId} {amountKopecks : Nat}
    {email : String} {slotId given : Option UuidText} {teacher : Option RowId}
    {order : PaymentOrder}
    (created : postForTeacher db invoiceId amountKopecks email slotId teacher =
      .created order given) :
    order.invoiceId = invoiceId ∧ order.amountKopecks = amountKopecks ∧
      order.customerEmail = some email ∧ given = slotId := by
  unfold postForTeacher at created
  split at created
  · cases created
  · split at created
    · injection created with made same
      subst made same
      exact ⟨rfl, rfl, rfl, rfl⟩
    · cases created

theorem binding_of_created {db : Db} {account : Option RowId} {invoiceId : InvoiceId}
    {request : PostPayment} {order : PaymentOrder} {slotId : UuidText}
    (created : postPayments db account invoiceId request = .created order (some slotId)) :
    order.invoiceId = invoiceId ∧ order.customerEmail.isSome ∧ ∃ learner, account = some learner ∧
        ∃ tariff, validatePaymentSlotBinding db slotId.id learner order.amountKopecks =
          .ok tariff := by
  rw [postPayments] at created
  split at created
  · cases created
  · cases created
  · next amountKopecks email _ _ =>
    split at created
    · cases created
    · split at created
      · have shape := postForTeacher_created created
        cases shape.2.2.2
      · next named _ =>
        split at created
        · cases created
        · next learner =>
          split at created
          · cases created
          · next tariff bound =>
            rcases postForTeacher_created created with ⟨invoice, amount, mail, same⟩
            injection same with same
            subst same
            refine ⟨invoice, ?_, learner, rfl, tariff, ?_⟩
            · rw [mail]
              rfl
            · rw [amount]
              exact bound

/-- The slot is booked by the learner at the price it had. -/
structure StillBound (before after : Db) (slotId learner : RowId) : Prop where
  booked : ∃ old new, before.slot? slotId = some old ∧ after.slot? slotId = some new ∧
    new.learnerAccountId = some learner ∧ new.status = .booked ∧
    after.expectedAmountKopecks new = before.expectedAmountKopecks old

theorem StillBound.binding {before after : Db} {slotId learner : RowId} {amountKopecks : Nat}
    {tariff : Option Nat} (still : StillBound before after slotId learner)
    (bound : validatePaymentSlotBinding before slotId learner amountKopecks = .ok tariff) :
    validatePaymentSlotBinding after slotId learner amountKopecks = .ok tariff := by
  rcases still.booked with ⟨old, new, read, readNow, owner, booked, price⟩
  rw [validatePaymentSlotBinding] at bound ⊢
  simp only [read] at bound
  simp only [readNow, owner, booked, price, ne_eq, not_true_eq_false, if_false]
  split at bound
  · cases bound
  · split at bound
    · cases bound
    · exact bound

theorem StillBound.owner {before after : Db} {slotId learner other : RowId}
    {amountKopecks : Nat} {tariff : Option Nat} (still : StillBound before after slotId learner)
    (bound : validatePaymentSlotBinding after slotId other amountKopecks = .ok tariff) :
    other = learner := by
  rcases still.booked with ⟨old, new, read, readNow, owner, booked, price⟩
  rw [validatePaymentSlotBinding] at bound
  simp only [readNow, owner] at bound
  split at bound
  · cases bound
  · next same =>
    simp only [ne_eq, Option.some.injEq, not_not] at same
    exact same.symm

namespace CardDb

variable {db : CardDb} {order : PaymentOrder} {invoiceId : InvoiceId} {slotId : UuidText}

/-- What a delivery leaves alone. -/
structure Keeps (before after : CardDb) : Prop where
  slotIds : after.slotIds = before.slotIds
  slots : after.base.slots = before.base.slots
  catalog : after.base.catalog = before.base.catalog
  orders : ∀ invoiceId order, before.order? invoiceId = some order ->
    ∃ later, after.order? invoiceId = some later ∧
      later.customerEmail = order.customerEmail ∧ later.amountKopecks = order.amountKopecks

theorem markOrderPaid_keeps (db : CardDb) (delivery : PayDelivery) :
    Keeps db (db.markOrderPaid delivery) := by
  rw [markOrderPaid]
  have same : Keeps db db := ⟨rfl, rfl, rfl, fun _ order read => ⟨order, read, rfl, rfl⟩⟩
  split
  · exact same
  · next order read =>
    split
    · exact same
    · refine ⟨rfl, rfl, rfl, fun invoiceId other found => ?_⟩
      by_cases named : invoiceId = order.invoiceId
      · subst named
        have here : db.order? order.invoiceId = some order := (key_of_get read) ▸ read
        have one : other = order := Option.some.inj (found.symm.trans here)
        subst one
        exact ⟨_, get_replace_self (paidRow db.base.clock delivery.transactionId other) here,
          rfl, rfl⟩
      · refine ⟨other, ?_, rfl, rfl⟩
        have apart : invoiceId ≠ (paidRow db.base.clock delivery.transactionId order).invoiceId :=
          named
        exact (get_replace_of_ne _ apart).trans found

theorem markOrderPaid_allocations (db : CardDb) (delivery : PayDelivery) :
    (db.markOrderPaid delivery).base.allocations = db.base.allocations := by
  rw [markOrderPaid]
  split
  · rfl
  · split
    · rfl
    · rfl

theorem allocateSlot_keeps (db : CardDb) (invoiceId : InvoiceId) :
    Keeps db (db.allocateSlot invoiceId) := by
  have same : Keeps db db := ⟨rfl, rfl, rfl, fun _ order read => ⟨order, read, rfl, rfl⟩⟩
  rw [allocateSlot]
  split
  · exact same
  · next allocation _ =>
    rw [Db.allocate]
    split
    · exact same
    · exact ⟨rfl, rfl, rfl, fun _ order read => ⟨order, read, rfl, rfl⟩⟩

theorem Keeps.trans {first second third : CardDb} (one : Keeps first second)
    (two : Keeps second third) : Keeps first third := by
  refine ⟨two.slotIds.trans one.slotIds, two.slots.trans one.slots,
    two.catalog.trans one.catalog, fun invoiceId order read => ?_⟩
  rcases one.orders invoiceId order read with ⟨middle, readMiddle, email, amount⟩
  rcases two.orders invoiceId middle readMiddle with ⟨last, readLast, emailToo, amountToo⟩
  exact ⟨last, readLast, emailToo.trans email, amountToo.trans amount⟩

theorem Keeps.slotAllocation {before after : CardDb} (keeps : Keeps before after)
    {later : PaymentOrder} (invoice : later.invoiceId = order.invoiceId)
    (email : later.customerEmail = order.customerEmail)
    (amount : later.amountKopecks = order.amountKopecks) :
    after.slotAllocation later = before.slotAllocation order := by
  have slots : ∀ id, after.base.slot? id = before.base.slot? id := fun id =>
    congrArg (fun rows => get LessonSlot.id rows id) keeps.slots
  have price : after.base.expectedAmountKopecks = before.base.expectedAmountKopecks := by
    funext slot
    rw [Db.expectedAmountKopecks, Db.expectedAmountKopecks, keeps.catalog]
  have accounts : getAccountByEmail after.base = getAccountByEmail before.base := by
    funext email
    rw [getAccountByEmail, getAccountByEmail, keeps.catalog]
  rw [CardDb.slotAllocation, CardDb.slotAllocation, slotIdOf, slotIdOf, keeps.slotIds, invoice,
    email, amount, accounts]
  simp only [validatePaymentSlotBinding, slots, price]

theorem payWebhook_allocations (read : db.order? invoiceId = some order)
    (transactionId : Option String) : (db.payWebhook ⟨invoiceId, transactionId⟩).base.allocations =
      match db.slotAllocation order with
      | none => db.base.allocations
      | some allocation => (db.base.allocate allocation).allocations := by
  have keeps := markOrderPaid_keeps db ⟨invoiceId, transactionId⟩
  have rows := markOrderPaid_allocations db ⟨invoiceId, transactionId⟩
  rcases keeps.orders invoiceId order read with ⟨later, found, email, amount⟩
  have invoice : later.invoiceId = order.invoiceId :=
    (key_of_get found).trans (key_of_get read).symm
  rw [payWebhook, allocateSlot, found, Option.bind_some,
    keeps.slotAllocation invoice email amount]
  cases db.slotAllocation order with
  | none => exact rows
  | some allocation =>
    simp only [Db.allocate, rows]
    cases get PaymentAllocation.key db.base.allocations allocation.key with
    | none => rfl
    | some _ => exact rows

theorem payWebhook_keeps (db : CardDb) (delivery : PayDelivery) :
    Keeps db (db.payWebhook delivery) :=
  (markOrderPaid_keeps db delivery).trans (allocateSlot_keeps _ _)

theorem payWebhooks_allocations {allocation : PaymentAllocation}
    (read : db.order? invoiceId = some order) (calls : db.slotAllocation order = some allocation)
    (made : get PaymentAllocation.key db.base.allocations allocation.key = some allocation)
    (deliveries : List PayDelivery)
    (same : ∀ delivery, delivery ∈ deliveries -> delivery.invoiceId = invoiceId) :
    (db.payWebhooks deliveries).base.allocations = db.base.allocations := by
  induction deliveries generalizing db order with
  | nil => rfl
  | cons delivery rest extend =>
    have here : delivery = ⟨invoiceId, delivery.transactionId⟩ := by
      rw [← same delivery List.mem_cons_self]
    have unchanged : (db.payWebhook delivery).base.allocations = db.base.allocations := by
      rw [here, payWebhook_allocations read delivery.transactionId, calls]
      simp only [Db.allocate, made]
    have keeps := payWebhook_keeps db delivery
    rcases keeps.orders invoiceId order read with ⟨later, found, email, amount⟩
    have invoice : later.invoiceId = order.invoiceId :=
      (key_of_get found).trans (key_of_get read).symm
    rw [payWebhooks, List.foldl_cons]
    refine (extend found ((keeps.slotAllocation invoice email amount).trans calls) ?_
      fun other member => same other (List.mem_cons_of_mem _ member)).trans unchanged
    rw [unchanged]
    exact made

theorem payWebhooks_allocates {allocation : PaymentAllocation}
    (read : db.order? invoiceId = some order) (calls : db.slotAllocation order = some allocation)
    (absent : get PaymentAllocation.key db.base.allocations allocation.key = none)
    (first : PayDelivery) (replays : List PayDelivery)
    (same : ∀ delivery, delivery ∈ first :: replays -> delivery.invoiceId = invoiceId) :
    (db.payWebhooks (first :: replays)).base.allocations = db.base.allocations ++ [allocation] := by
  have here : first = ⟨invoiceId, first.transactionId⟩ := by
    rw [← same first List.mem_cons_self]
  have once : (db.payWebhook first).base.allocations = db.base.allocations ++ [allocation] := by
    rw [here, payWebhook_allocations read first.transactionId, calls]
    simp only [Db.allocate, absent]
  have keeps := payWebhook_keeps db first
  rcases keeps.orders invoiceId order read with ⟨later, found, email, amount⟩
  have invoice : later.invoiceId = order.invoiceId :=
    (key_of_get found).trans (key_of_get read).symm
  have again := (keeps.slotAllocation invoice email amount).trans calls
  have there : get PaymentAllocation.key (db.payWebhook first).base.allocations
      allocation.key = some allocation := by
    rw [once]
    exact get_insert_self allocation absent
  exact (payWebhooks_allocations found again there replays fun delivery member =>
    same delivery (List.mem_cons_of_mem _ member)).trans once

theorem payWebhooks_nothing (read : db.order? invoiceId = some order)
    (calls : db.slotAllocation order = none) (deliveries : List PayDelivery)
    (same : ∀ delivery, delivery ∈ deliveries -> delivery.invoiceId = invoiceId) :
    (db.payWebhooks deliveries).base.allocations = db.base.allocations := by
  induction deliveries generalizing db order with
  | nil => rfl
  | cons delivery rest extend =>
    have here : delivery = ⟨invoiceId, delivery.transactionId⟩ := by
      rw [← same delivery List.mem_cons_self]
    have unchanged : (db.payWebhook delivery).base.allocations = db.base.allocations := by
      rw [here, payWebhook_allocations read delivery.transactionId, calls]
    have keeps := payWebhook_keeps db delivery
    rcases keeps.orders invoiceId order read with ⟨later, found, email, amount⟩
    have invoice : later.invoiceId = order.invoiceId :=
      (key_of_get found).trans (key_of_get read).symm
    rw [payWebhooks, List.foldl_cons]
    exact (extend found ((keeps.slotAllocation invoice email amount).trans calls)
      fun other member => same other (List.mem_cons_of_mem _ member)).trans unchanged

end CardDb

/-- An order that names a slot, in a later state of the database: what the webhook reads of
it is as it was created, and it has not been allocated yet. -/
structure Awaiting (later : CardDb) (order : PaymentOrder) (slotId : UuidText) : Prop where
  row : ∃ row, later.order? order.invoiceId = some row ∧
    row.customerEmail = order.customerEmail ∧ row.amountKopecks = order.amountKopecks
  slotId : later.slotIdOf order.invoiceId = some slotId
  fresh : ∀ allocation, allocation ∈ later.base.allocations ->
    allocation.key.paymentOrderId ≠ order.invoiceId

/-- The e-mail of the order is that of the learner, and the id of the slot was sent as the
database prints it. -/
def ReachesLearner (later : CardDb) (order : PaymentOrder) (slotId : UuidText)
    (learner : RowId) : Prop :=
  order.customerEmail.bind (getAccountByEmail later.base) = some learner ∧ slotId.IsCanonical

/-- A paid order for a lesson is allocated to the lesson, and only once, exactly if it was
created under the e-mail of the learner and with the slot's id in the database's spelling. -/
theorem lesson_order_allocated_iff {db later : CardDb} {account : Option RowId}
    {invoiceId : InvoiceId} {request : PostPayment} {order : PaymentOrder} {slotId : UuidText}
    {learner : RowId}
    (created : postPayments db.base account invoiceId request = .created order (some slotId))
    (signedIn : account = some learner) (awaiting : Awaiting later order slotId)
    (still : StillBound db.base later.base slotId.id learner) (first : PayDelivery)
    (replays : List PayDelivery)
    (same : ∀ delivery, delivery ∈ first :: replays -> delivery.invoiceId = invoiceId) :
    (later.payWebhooks (first :: replays)).allocationsTo invoiceId slotId.id =
        [⟨⟨invoiceId, .lessonSlot, .canonical slotId.id⟩, order.amountKopecks⟩] <->
      ReachesLearner later order slotId learner := by
  subst signedIn
  rcases binding_of_created created with ⟨invoice, -, _, sameLearner, tariff, bound⟩
  injection sameLearner with sameLearner
  subst sameLearner invoice
  rcases awaiting.row with ⟨row, read, email, amount⟩
  have nothing : later.allocationsTo order.invoiceId slotId.id = [] := by
    refine List.filter_eq_nil_iff.mpr fun allocation member => ?_
    simp [awaiting.fresh allocation member]
  have calls : later.slotAllocation row = later.slotAllocation order :=
    CardDb.Keeps.slotAllocation ⟨rfl, rfl, rfl, fun _ one read => ⟨one, read, rfl, rfl⟩⟩
      (key_of_get read) email amount
  cases account : order.customerEmail.bind (getAccountByEmail later.base) with
  | none =>
    have none : later.slotAllocation row = none := by
      rw [calls, CardDb.slotAllocation, account, awaiting.slotId]
    rw [CardDb.allocationsTo, CardDb.payWebhooks_nothing read none _ same]
    refine iff_of_false ?_ ?_
    · rw [← CardDb.allocationsTo, nothing]
      exact (List.cons_ne_nil _ _).symm
    · rintro ⟨found, -⟩
      rw [account] at found
      cases found
  | some customerAccount =>
    cases verdict : validatePaymentSlotBinding later.base slotId.id customerAccount
        order.amountKopecks with
    | error reason =>
      have none : later.slotAllocation row = none := by
        rw [calls, CardDb.slotAllocation, account, awaiting.slotId]
        simp only [verdict]
      rw [CardDb.allocationsTo, CardDb.payWebhooks_nothing read none _ same]
      refine iff_of_false ?_ ?_
      · rw [← CardDb.allocationsTo, nothing]
        exact (List.cons_ne_nil _ _).symm
      · rintro ⟨found, -⟩
        rw [account] at found
        injection found with found
        rw [found, still.binding bound] at verdict
        cases verdict
    | ok tariffNow =>
      have owner := still.owner verdict
      subst owner
      let allocation : PaymentAllocation :=
        ⟨⟨order.invoiceId, .lessonSlot, slotId⟩, order.amountKopecks⟩
      have made : later.slotAllocation row = some allocation := by
        rw [calls, CardDb.slotAllocation, account, awaiting.slotId]
        simp only [verdict]
        rfl
      have absent : get PaymentAllocation.key later.base.allocations allocation.key = none := by
        refine get_eq_none_iff.mpr fun other member clash => ?_
        exact awaiting.fresh other member (congrArg AllocationKey.paymentOrderId clash)
      have all := CardDb.payWebhooks_allocates read made absent first replays same
      rw [CardDb.allocationsTo, all, List.filter_append, ← CardDb.allocationsTo, nothing,
        List.nil_append]
      by_cases canonical : slotId.IsCanonical
      · have spelled := canonical.eq_canonical
        refine iff_of_true ?_ ⟨account, canonical⟩
        simp [allocation, Db.allocatedTo, ← spelled]
      · refine iff_of_false ?_ fun reaches => canonical reaches.2
        have elsewhere : slotId ≠ .canonical slotId.id := fun equal => canonical (by
          rw [equal]
          exact UuidText.canonical_isCanonical _)
        simp [allocation, Db.allocatedTo, elsewhere]

private def bookedLesson : CardDb where
  base := { Db.empty with
    catalog := { Catalog.empty with
      accountsByEmail := fun email => if email = "ann@example.com" then [.seeded 1] else []
      operatorManaged := fun _ => true }
    slots := [⟨.seeded 7, .seeded 2, 1000, 60, .booked, false, some (.seeded 1), none,
      some 200000, none, none, none, none, 0⟩] }
  slotIds := []

private def lessonRequest (customerEmail : String) : PostPayment :=
  ⟨some 200000, customerEmail, true, some (.canonical (.seeded 7)), none⟩

private def lessonOrder (customerEmail : String) : PaymentOrder :=
  createCloudPaymentsOrder (.generated (.seeded 9)) 0 200000 customerEmail (.seeded 2)

private def stored (order : PaymentOrder) : CardDb where
  base := bookedLesson.base.apply (.order (.insert order))
  slotIds := [(order.invoiceId, .canonical (.seeded 7))]

private theorem stored_bound (order : PaymentOrder) :
    StillBound bookedLesson.base (stored order).base (.seeded 7) (.seeded 1) :=
  ⟨_, _, rfl, rfl, rfl, rfl, rfl⟩

private theorem stored_awaiting (order : PaymentOrder) :
    Awaiting (stored order) order (.canonical (.seeded 7)) where
  row := ⟨order, get_insert_self order rfl, rfl, rfl⟩
  slotId := by simp [CardDb.slotIdOf, stored, Tables.get]
  fresh _ member := by cases member

/-- Under the learner's own address the lesson is paid, delivered once or twice. -/
theorem lesson_order_allocated_own_email : ((stored (lessonOrder "ann@example.com")).payWebhooks
      [⟨.generated (.seeded 9), some "1"⟩, ⟨.generated (.seeded 9), some "1"⟩]).allocationsTo
        (.generated (.seeded 9)) (.seeded 7) =
      [⟨⟨.generated (.seeded 9), .lessonSlot, .canonical (.seeded 7)⟩, 200000⟩] := by
  have created : postPayments bookedLesson.base (some (.seeded 1)) (.generated (.seeded 9))
      (lessonRequest " Ann@example.com") =
        .created (lessonOrder "ann@example.com") (some (.canonical (.seeded 7))) := by
    decide +kernel
  exact (lesson_order_allocated_iff created rfl (stored_awaiting _) (stored_bound _) _ _
    (by simp)).mpr ⟨by decide +kernel, rfl⟩

/-- Under a parent's address the order is accepted and paid, and the lesson is not. -/
theorem lesson_order_not_allocated :
    ¬ ∀ (db later : CardDb) (account : Option RowId) (invoiceId : InvoiceId)
        (request : PostPayment) (order : PaymentOrder) (slotId : UuidText) (learner : RowId),
      postPayments db.base account invoiceId request = .created order (some slotId) ->
      account = some learner -> Awaiting later order slotId ->
      StillBound db.base later.base slotId.id learner ->
      ∀ (first : PayDelivery) (replays : List PayDelivery),
        (∀ delivery, delivery ∈ first :: replays -> delivery.invoiceId = invoiceId) ->
          (later.payWebhooks (first :: replays)).allocationsTo invoiceId slotId.id =
            [⟨⟨invoiceId, .lessonSlot, .canonical slotId.id⟩, order.amountKopecks⟩] := by
  intro always
  have created : postPayments bookedLesson.base (some (.seeded 1)) (.generated (.seeded 9))
      (lessonRequest "mother@example.com") =
        .created (lessonOrder "mother@example.com") (some (.canonical (.seeded 7))) := by
    decide +kernel
  have allocated := always bookedLesson (stored (lessonOrder "mother@example.com")) _ _ _ _ _ _
    created rfl (stored_awaiting _) (stored_bound _) ⟨.generated (.seeded 9), some "1"⟩ []
    (by simp)
  have none : ((stored (lessonOrder "mother@example.com")).payWebhooks
      [⟨.generated (.seeded 9), some "1"⟩]).allocationsTo (.generated (.seeded 9)) (.seeded 7) =
        [] := by
    decide +kernel
  exact absurd (none.symm.trans allocated) (List.cons_ne_nil _ _).symm

end Payments

end LevelChannel
