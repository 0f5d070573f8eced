import LevelChannel.ReadCommitted.Sessions
import LevelChannel.Schema.Billing
import LevelChannel.Payments.Idempotency

namespace LevelChannel

open ReadCommitted Tables

namespace Payments

/-!
# Card orders

An order is created before the payment provider hears of it.  The webhooks, the browser and
an hourly job then change its status, each of them by reading the row under its lock,
computing a new one and writing that back whole.  Reading a row cuts its times down to
seconds, since they pass through text.
-/

/-! ## Rows -/

inductive OrderEventType where
  | consentAccepted
  | created
  | chargeAttempt
  | requiresThreeDs
  | threeDsError
  | paid
  | paidDuplicate
  | failed
  | failDuplicate
  | failIgnoredAfterPaid
  | cancelled
  | cancelDuplicate
  | cancelIgnoredAfterPaid
  | cancelIgnoredAfterFailed
  deriving DecidableEq, Repr

/-- A value in the payload of an event: a text, a number as `String` prints it, or
something else. -/
inductive PayloadValue where
  | text (value : String)
  | number (printed : String)
  | other
  deriving DecidableEq, Repr

abbrev EventPayload := List (String × PayloadValue)

def getPayloadString (payload : EventPayload) (key : String) : Option String :=
  match payload.lookup key with
  | some (.text value) => if value = "" then none else some value
  | some (.number printed) => some printed
  | _ => none

structure OrderEvent where
  type : OrderEventType
  at_ : Nat
  payload : EventPayload
  deriving DecidableEq, Repr

inductive OrderPaymentMethod where
  | card
  | sbp
  | adminGrant
  | teacherGrant
  deriving DecidableEq, Repr

/-- A row of `payment_orders` whose provider is CloudPayments.  Of `metadata` the keys
`rememberCard` and `threeDs.transactionId` are read. -/
structure CardOrder where
  invoiceId : InvoiceId
  amountKopecks : Nat
  status : OrderStatus
  createdAt : Nat
  updatedAt : Nat
  paidAt : Option Nat
  failedAt : Option Nat
  providerTransactionId : Option String
  providerMessage : Option String
  customerEmail : String
  paymentMethod : Option OrderPaymentMethod
  rememberCard : Bool
  threeDsTransactionId : Option String
  events : List OrderEvent
  deriving DecidableEq, Repr

/-- `new Date(String(time)).toISOString()`, in milliseconds. -/
def wholeSecond (time : Nat) : Nat :=
  time / 1000 * 1000

def nonempty (text : Option String) : Option String :=
  text.filter fun value => value ≠ ""

def mapRowToOrder (row : CardOrder) : CardOrder :=
  { row with
    createdAt := wholeSecond row.createdAt
    updatedAt := wholeSecond row.updatedAt
    paidAt := row.paidAt.map wholeSecond
    failedAt := row.failedAt.map wholeSecond
    providerTransactionId := nonempty row.providerTransactionId
    providerMessage := nonempty row.providerMessage }

def toInsertValues (order : CardOrder) : CardOrder :=
  { order with
    providerTransactionId := nonempty order.providerTransactionId
    providerMessage := nonempty order.providerMessage }

/-- `PublicPaymentOrder` -/
structure PublicOrder where
  invoiceId : InvoiceId
  amountKopecks : Nat
  status : OrderStatus
  createdAt : Nat
  updatedAt : Nat
  paidAt : Option Nat
  failedAt : Option Nat
  providerMessage : Option String
  deriving DecidableEq, Repr

def toPublicOrder (order : CardOrder) : PublicOrder where
  invoiceId := order.invoiceId
  amountKopecks := order.amountKopecks
  status := order.status
  createdAt := order.createdAt
  updatedAt := order.updatedAt
  paidAt := order.paidAt
  failedAt := order.failedAt
  providerMessage := order.providerMessage

/-- A row of `payment_card_tokens`; its primary key is the e-mail. -/
structure SavedCardToken where
  customerEmail : String
  token : String
  createdAt : Nat
  lastUsedAt : Nat
  deriving DecidableEq, Repr

def appendEvent (order : CardOrder) (type : OrderEventType) (payload : EventPayload)
    (now : Nat) : CardOrder :=
  { order with
    updatedAt := now
    events := (⟨type, now, payload⟩ :: order.events).take 50 }

/-- An updater of `updateOrder`, with the event it appends.  It runs at one time. -/
structure OrderUpdate where
  event : CardOrder -> OrderEventType
  update : Nat -> CardOrder -> CardOrder

/-- What `detectPaymentMethod` finds. -/
inductive DetectedMethod where
  | card
  | sbp
  | unknown
  deriving DecidableEq, Repr

def DetectedMethod.column : DetectedMethod -> Option OrderPaymentMethod
  | .card => some .card
  | .sbp => some .sbp
  | .unknown => none

namespace OrderUpdate

variable (payload : EventPayload)

/-- The updater of `markOrderPaid` -/
def paid (detected : Option DetectedMethod) : OrderUpdate where
  event order := if order.status = .paid then .paidDuplicate else .paid
  update now order :=
    if order.status = .paid then appendEvent order .paidDuplicate payload now
    else
      appendEvent
        { order with
          status := .paid
          paidAt := order.paidAt.or (some now)
          providerTransactionId :=
            (getPayloadString payload "transactionId").or order.providerTransactionId
          providerMessage := some "Платёж подтверждён."
          paymentMethod := order.paymentMethod.or (detected.bind DetectedMethod.column) }
        .paid payload now

/-- The updater of `markOrderFailed` -/
def failed : OrderUpdate where
  event order :=
    if order.status = .paid then .failIgnoredAfterPaid
    else if order.status = .failed then .failDuplicate
    else .failed
  update now order :=
    if order.status = .paid then appendEvent order .failIgnoredAfterPaid payload now
    else if order.status = .failed then appendEvent order .failDuplicate payload now
    else
      appendEvent
        { order with
          status := .failed
          failedAt := order.failedAt.or (some now)
          providerTransactionId :=
            (getPayloadString payload "transactionId").or order.providerTransactionId
          providerMessage := some
            ((getPayloadString payload "reason").getD "Платёж отклонён или отменён.") }
        .failed payload now

/-- The updater of `markOrderCancelled` -/
def cancelled : OrderUpdate where
  event order :=
    if order.status = .paid then .cancelIgnoredAfterPaid
    else if order.status = .cancelled then .cancelDuplicate
    else if order.status = .failed then .cancelIgnoredAfterFailed
    else .cancelled
  update now order :=
    if order.status = .paid then appendEvent order .cancelIgnoredAfterPaid payload now
    else if order.status = .cancelled then appendEvent order .cancelDuplicate payload now
    else if order.status = .failed then appendEvent order .cancelIgnoredAfterFailed payload now
    else
      appendEvent
        { order with
          status := .cancelled
          providerMessage := some "Платёжная форма была закрыта без завершения оплаты." }
        .cancelled payload now

def requiresThreeDs (transactionId : String) : OrderUpdate where
  event _ := .requiresThreeDs
  update now order :=
    appendEvent
      { order with
        providerMessage := some "Подтвердите оплату в окне 3-D Secure вашего банка."
        threeDsTransactionId := some transactionId }
      .requiresThreeDs [("transactionId", .text transactionId)] now

def threeDsError (message : String) : OrderUpdate where
  event _ := .threeDsError
  update now order := appendEvent order .threeDsError [("message", .text message)] now

end OrderUpdate

/-- `createCloudPaymentsOrder`, with the event that a one-click charge adds. -/
def newCardOrder (invoiceId : InvoiceId) (now amountKopecks : Nat) (customerEmail : String)
    (rememberCard : Bool) (more : List OrderEventType) : CardOrder where
  invoiceId := invoiceId
  amountKopecks := amountKopecks
  status := .pending
  createdAt := now
  updatedAt := now
  paidAt := none
  failedAt := none
  providerTransactionId := none
  providerMessage := some "Ожидаем завершения оплаты в CloudPayments."
  customerEmail := customerEmail
  paymentMethod := some .card
  rememberCard := rememberCard
  threeDsTransactionId := none
  events := [⟨.consentAccepted, now, []⟩, ⟨.created, now, []⟩] ++
    more.map fun type => ⟨type, now, []⟩

/-! ## The database -/

/-- What the provider was sent for a saved card: the order, and the request it belongs to. -/
structure SavedCardCharge where
  invoiceId : InvoiceId
  session : Nat
  deriving DecidableEq, Repr

/-- What a one-click charge comes to, or the error that kept it from being tried. -/
inductive ChargeOutcome where
  | rejected (error : String)
  | noSavedCard
  | paid (order : PublicOrder)
  | requiresThreeDs (order : PublicOrder) (transactionId paReq acsUrl : String)
  | declined (order : PublicOrder) (reason : String)
  deriving DecidableEq, Repr

/-- The tables, the clock, and three records that no table holds: the events that were
appended to orders, latest first, the charges of saved cards the provider accepted, and
the requests that are between their lookup and their answer. -/
structure OrderDb where
  clock : Nat
  orders : List CardOrder
  cards : List SavedCardToken
  records : List (IdempotencyRecord ChargeOutcome)
  appended : List (InvoiceId × OrderEventType)
  accepted : List SavedCardCharge
  executing : List Nat

inductive OrderWrite where
  | order (change : Change CardOrder)
  | card (change : Change SavedCardToken)
  | record (row : IdempotencyRecord ChargeOutcome)
  | appended (invoiceId : InvoiceId) (type : OrderEventType)
  | accepted (charge : SavedCardCharge)
  | executing (session : Nat)
  | answered (session : Nat)

namespace OrderDb

def order? (db : OrderDb) (invoiceId : InvoiceId) : Option CardOrder :=
  get CardOrder.invoiceId db.orders invoiceId

def card? (db : OrderDb) (customerEmail : String) : Option SavedCardToken :=
  get SavedCardToken.customerEmail db.cards customerEmail

def answered (db : OrderDb) (session : Nat) : OrderDb :=
  { db with executing := db.executing.filter fun other => other ≠ session }

def apply (db : OrderDb) : OrderWrite -> OrderDb
  | .order change => { db with orders := change.apply CardOrder.invoiceId db.orders }
  | .card change => { db with cards := change.apply SavedCardToken.customerEmail db.cards }
  | .record row => { db with records := IdempotentRequest.saveIdempotencyRecord db.records row }
  | .appended invoiceId type => { db with appended := (invoiceId, type) :: db.appended }
  | .accepted charge => { db with accepted := charge :: db.accepted }
  | .executing session => { db with executing := session :: db.executing }
  | .answered session => db.answered session

end OrderDb

def orderStore : Store OrderDb InvoiceId OrderWrite Nat where
  apply := OrderDb.apply
  drift := fun passed db => { db with clock := db.clock + passed }
  close := fun session db => db.answered session
  conflict := fun first second => first = second
  conflict_comm := fun _ _ => decide_eq_decide.mpr eq_comm

/-- The lookup of an idempotent request, with what it looks for, if anything. -/
inductive OrderLabel where
  | plain
  | lookup (wanted : Option (IdempotencyScope × String))

/-- What the provider answers.  An error leaves open whether it took the charge. -/
inductive ProviderAnswer where
  | success (transactionId : String)
  | requiresThreeDs (transactionId paReq acsUrl : String)
  | declined (transactionId : Option String) (message : String) (reasonCode : Option String)
  | error (message : String) (accepted : Bool)
  deriving DecidableEq

def ProviderAnswer.accepted : ProviderAnswer -> Bool
  | .success _ => true
  | .requiresThreeDs .. => false
  | .declined .. => false
  | .error _ accepted => accepted

inductive OrderReply where
  | order (order : Option CardOrder)
  | threeDs (outcome : ChargeOutcome)
  | unknownInvoice
  | invalidState (order : PublicOrder)
  | swept (cancelled failed : Nat)
  | charge (reply : IdempotentReply ChargeOutcome)
  | thrown
  deriving DecidableEq

abbrev OrderProgram :=
  Program OrderDb InvoiceId OrderWrite OrderLabel ProviderAnswer OrderReply

abbrev OrderState :=
  State OrderDb InvoiceId OrderWrite OrderLabel ProviderAnswer OrderReply

/-! ## Programs -/

def autocommit (locks : List InvoiceId) (onError : OrderProgram)
    (writes : OrderDb -> List OrderWrite) (next : OrderProgram) : OrderProgram :=
  .writing .plain locks onError writes fun _ => .commit onError next

def updateOrder (invoiceId : InvoiceId) (updater : OrderUpdate) (onError : OrderProgram)
    (next : Option CardOrder -> OrderProgram) : OrderProgram :=
  .reading .plain onError fun _ _ =>
    .acquiring .plain [invoiceId] onError fun _ own =>
      match own.order? invoiceId with
      | none => .rollback (next none)
      | some row =>
        let current := mapRowToOrder row
        let result := updater.update own.clock current
        .writing .plain [] onError
          (fun _ => [.order (.replace (toInsertValues result)),
            .appended invoiceId (updater.event current)])
          fun _ => .commit onError (next (some result))

def markOrderPaid (invoiceId : InvoiceId) (payload : EventPayload)
    (detected : Option DetectedMethod) : OrderProgram :=
  updateOrder invoiceId (.paid payload detected) (.done .thrown) fun order => .done (.order order)

def markOrderFailed (invoiceId : InvoiceId) (payload : EventPayload) : OrderProgram :=
  updateOrder invoiceId (.failed payload) (.done .thrown) fun order => .done (.order order)

def markOrderCancelled (invoiceId : InvoiceId) (payload : EventPayload) : OrderProgram :=
  updateOrder invoiceId (.cancelled payload) (.done .thrown) fun order => .done (.order order)

def createOrder (invoiceId : InvoiceId) (amountKopecks : Nat) (customerEmail : String)
    (rememberCard : Bool) (more : List OrderEventType) (onError : OrderProgram)
    (next : CardOrder -> OrderProgram) : OrderProgram :=
  .reading .plain onError fun _ own =>
    let order := newCardOrder invoiceId own.clock amountKopecks customerEmail rememberCard more
    .guarded .plain [invoiceId] onError (fun own => (own.order? invoiceId).isSome)
      (fun _ => [.order (.insert order)]) fun _ => .commit onError (next order)

/-- `confirmThreeDsAndFinalize`.  What it does to saved cards is left out. -/
def confirmThreeDsAndFinalize (invoiceId : InvoiceId) : OrderProgram :=
  .reading .plain (.done .thrown) fun committed _ =>
    match (committed.order? invoiceId).map mapRowToOrder with
    | none => .done .unknownInvoice
    | some order =>
      if order.status = .paid then .done (.threeDs (.paid (toPublicOrder order)))
      else if (nonempty order.threeDsTransactionId).isNone ∨ order.status ≠ .pending then
        .done (.invalidState (toPublicOrder order))
      else
        .call .plain (fun _ _ => []) fun _ answer =>
          match answer with
          | .success transactionId =>
            updateOrder invoiceId (.paid [("transactionId", .text transactionId),
                ("source", .text "one_click_3ds")] none) (.done .thrown) fun paid =>
              .done (.threeDs (.paid (toPublicOrder (paid.getD order))))
          | .declined transactionId message reasonCode =>
            updateOrder invoiceId (.failed
                [("transactionId", (transactionId.map .text).getD .other),
                  ("reason", .text message),
                  ("reasonCode", (reasonCode.map .text).getD .other),
                  ("source", .text "one_click_3ds")]) (.done .thrown) fun failed =>
              .done (.threeDs (.declined (toPublicOrder (failed.getD order)) message))
          | .error message _ =>
            updateOrder invoiceId (.threeDsError message) (.done .thrown) fun _ =>
              .done (.threeDs (.declined (toPublicOrder order) message))
          -- the confirmation has no such answer
          | .requiresThreeDs .. => .done .thrown

/-- The parameters of `chargeWithSavedCard` that it reads. -/
structure ChargeParams where
  amountKopecks : Nat
  customerEmail : String
  deriving DecidableEq

def cardInvalid (reasonCode : Option String) : Bool :=
  reasonCode = some "5051" || reasonCode = some "5054" || reasonCode = some "5057"

/-- `chargeWithSavedCard` after the provider has answered. -/
def afterCharge (saved : SavedCardToken) (order : CardOrder) (thrown : OrderProgram)
    (next : ChargeOutcome -> OrderProgram) : ProviderAnswer -> OrderProgram
  | .success transactionId =>
    updateOrder order.invoiceId (.paid [("transactionId", .text transactionId),
        ("source", .text "one_click")] none) thrown fun paid =>
      .reading .plain thrown fun _ own =>
        autocommit [] thrown
          (fun now => ((now.card? saved.customerEmail).map fun card =>
            .card (.replace { card with lastUsedAt := own.clock })).toList)
          (next (.paid (toPublicOrder (paid.getD order))))
  | .requiresThreeDs transactionId paReq acsUrl =>
    updateOrder order.invoiceId (.requiresThreeDs transactionId) thrown fun updated =>
      next (.requiresThreeDs (toPublicOrder (updated.getD order)) transactionId paReq acsUrl)
  | .declined transactionId message reasonCode =>
    updateOrder order.invoiceId (.failed
        [("transactionId", (transactionId.map .text).getD .other), ("reason", .text message),
          ("reasonCode", (reasonCode.map .text).getD .other),
          ("source", .text "one_click")]) thrown fun failed =>
      let declined := next (.declined (toPublicOrder (failed.getD order)) message)
      if cardInvalid reasonCode then
        autocommit [] thrown
          (fun now => ((now.card? saved.customerEmail).map fun card =>
            .card (.delete card)).toList) declined
      else declined
  | .error message _ =>
    updateOrder order.invoiceId (.failed [("reason", .text message),
        ("source", .text "one_click")]) thrown fun failed =>
      next (.declined (toPublicOrder (failed.getD order)) message)

def chargeWithSavedCard (session : Nat) (params : ChargeParams) (thrown : OrderProgram)
    (next : ChargeOutcome -> OrderProgram) : OrderProgram :=
  let invoiceId := InvoiceId.generated (.minted session 0)
  .reading .plain thrown fun committed _ =>
    match committed.card? params.customerEmail with
    | none => next .noSavedCard
    | some saved =>
      createOrder invoiceId params.amountKopecks params.customerEmail false [.chargeAttempt]
        thrown fun order =>
          .call .plain
            (fun _ answer => if answer.accepted then [.accepted ⟨invoiceId, session⟩] else [])
            fun _ answer => afterCharge saved order thrown next answer

/-- `candidates` of a run of the job: orders that have been pending for too long. -/
def staleOrders (db : OrderDb) (thresholdMinutes : Nat) : List InvoiceId :=
  (((db.orders.filter fun row => row.status = .pending &&
    decide (row.createdAt + thresholdMinutes * 60000 < db.clock)).mergeSort
      fun first second => first.createdAt ≤ second.createdAt).take 1000).map CardOrder.invoiceId

/-- The row the job leaves.  It appends the event behind the others, and all of them. -/
def cancelStale (startedAt : Nat) (row : CardOrder) : CardOrder :=
  { row with
    status := .cancelled
    updatedAt := startedAt
    providerMessage := some "Заказ отменён системой по таймауту."
    events := row.events ++ [⟨.cancelled, startedAt,
      [("source", .text "system"), ("reason", .text "stale_pending_timeout")]⟩] }

def stalePending (db : OrderDb) (invoiceId : InvoiceId) : Option CardOrder :=
  (db.order? invoiceId).filter fun row => row.status = .pending

/-- The loop of the job over its candidates; the audit row is left out. -/
def cancelStaleRows : List InvoiceId -> Nat -> Nat -> OrderProgram
  | [], cancelled, failed => .done (.swept cancelled failed)
  | invoiceId :: rest, cancelled, failed =>
    let skipped := cancelStaleRows rest cancelled (failed + 1)
    .reading .plain skipped fun _ begun =>
      .writing .plain [invoiceId] skipped
        (fun own => match stalePending own invoiceId with
          | none => []
          | some row => [.order (.replace (cancelStale begun.clock row)),
              .appended invoiceId .cancelled])
        fun own =>
          if (stalePending own invoiceId).isNone then
            .rollback (cancelStaleRows rest cancelled failed)
          else .commit skipped (cancelStaleRows rest (cancelled + 1) failed)

/-- `readThreshold`, of the number that is configured. -/
def readThreshold (configured : Option Nat) : Nat :=
  match configured with
  | none => 60
  | some minutes => max 30 minutes

/-- `cancel-stale-orders.mjs` -/
def cancelStaleOrders (configured : Option Nat) : OrderProgram :=
  .reading .plain (.done .thrown) fun committed _ =>
    cancelStaleRows (staleOrders committed (readThreshold configured)) 0 0

end Payments

end LevelChannel
