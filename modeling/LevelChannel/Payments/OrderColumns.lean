import LevelChannel.Numbers.Json
import LevelChannel.Payments.Orders
import LevelChannel.Tables.Columns

namespace LevelChannel

open Tables Numbers

/-!
# The columns of an order

An update of an order reads its row, lets a function change the object that is made of it, and
writes all of the object back.  What the way through the object loses is lost for good: the
fraction of a second, since a date is read from its text, the values that count as false, and the
digits of a number in JSON that double precision has no room for.
-/

namespace OrderColumns

def providerText : OrderProvider -> String
  | .mock => "mock"
  | .cloudpayments => "cloudpayments"
  | .adminGrant => "admin_grant"
  | .teacherGrant => "teacher_grant"

def statusText : OrderStatus -> String
  | .pending => "pending"
  | .threeDsRequired => "3ds_required"
  | .paid => "paid"
  | .failed => "failed"
  | .cancelled => "cancelled"
  | .granted => "granted"
  | .teacherGranted => "teacher_granted"
  | .teacherRevoked => "teacher_revoked"

def paymentMethodText : Payments.OrderPaymentMethod -> String
  | .card => "card"
  | .sbp => "sbp"
  | .adminGrant => "admin_grant"
  | .teacherGrant => "teacher_grant"

def KNOWN_PROVIDERS : List OrderProvider :=
  [.cloudpayments, .mock, .adminGrant, .teacherGrant]

def KNOWN_STATUSES : List OrderStatus :=
  [.pending, .threeDsRequired, .paid, .failed, .cancelled, .granted, .teacherGranted,
    .teacherRevoked]

def KNOWN_PAYMENT_METHODS : List Payments.OrderPaymentMethod :=
  [.card, .sbp, .adminGrant, .teacherGrant]

/-! ## How the values of a column are read and written -/

def known {Value : Type} (text : Value -> String) (values : List Value) : Codec String Value where
  read stored := values.find? fun value => text value = stored
  write := text

/-- `new Date(String(time)).toISOString()`: the column has microseconds, its date milliseconds,
and the text of the date whole seconds. -/
def readTime (stored : Int) : Int :=
  stored / 1000000 * 1000

def time : Codec Int Int where
  read stored := some (readTime stored)
  write ms := ms * 1000

/-- What `numeric(12, 2)` makes of a number: hundredths, a half being rounded away from zero. -/
def roundHundredths (number : Rat) : Int :=
  if 0 ≤ number then ⌊100 * number + 1 / 2⌋ else -⌊-(100 * number) + 1 / 2⌋

/-- `Number(row.amount_rub)`, a number standing for the decimal it is printed as. -/
def amount : Codec Int Rat where
  read hundredths := some (hundredths / 100)
  write := roundHundredths

/-- `row.x ? String(row.x) : undefined`, and `order.x || null` -/
def optionalText : Codec (Option String) (Option String) :=
  .filtered fun text => text ≠ ""

/-- `JSON.stringify(order.receipt)`.  The type of a receipt has no undefined. -/
def receipt : Codec Json { value : JsValue // value ≠ .undefined } where
  read stored := some ⟨parse stored, parse_ne_undefined stored⟩
  write value := stringify value.1

/-- `row.metadata || undefined`, and `order.metadata ? JSON.stringify(order.metadata) : null` -/
def metadata : Codec (Option Json) (Option JsValue) where
  read stored := some ((stored.map parse).filter JsValue.truthy)
  write value := (value.filter JsValue.truthy).map stringify

/-- `Array.isArray(row.events) ? row.events : []` -/
def events : Codec Json (List JsValue) where
  read
    | .array entries => some (parseEntries entries)
    | _ => some []
  write entries := .array (stringifyEntries entries)

/-- A row of `payment_orders`.  Times are in microseconds, the amount in hundredths. -/
structure StoredOrder where
  invoiceId : InvoiceId
  amountRub : Int
  currency : String
  description : String
  provider : String
  status : String
  createdAt : Int
  updatedAt : Int
  paidAt : Option Int
  failedAt : Option Int
  providerTransactionId : Option String
  providerMessage : Option String
  customerEmail : String
  receiptEmail : String
  receipt : Json
  metadata : Option Json
  mockAutoConfirmAt : Option Int
  events : Json
  customerComment : Option String
  receiptTokenHash : Option String
  grantedByOperatorId : Option RowId
  paymentMethod : Option String
  grantedByTeacherId : Option RowId
  teacherAccountId : Option RowId

/-- `PaymentOrder`.  Times are in milliseconds; the currency can only be one. -/
structure PaymentOrder where
  invoiceId : InvoiceId
  amountRub : Rat
  description : String
  provider : OrderProvider
  status : OrderStatus
  createdAt : Int
  updatedAt : Int
  paidAt : Option Int
  failedAt : Option Int
  providerTransactionId : Option String
  providerMessage : Option String
  customerEmail : String
  receiptEmail : String
  receipt : { value : JsValue // value ≠ .undefined }
  metadata : Option JsValue
  mockAutoConfirmAt : Option Int
  events : List JsValue
  customerComment : Option String
  receiptTokenHash : Option String
  grantedByOperatorId : Option RowId
  paymentMethod : Option Payments.OrderPaymentMethod
  grantedByTeacherId : Option RowId
  teacherAccountId : Option RowId

/-- `mapRowToOrder`.  What is not known is an error, not a default. -/
def mapRowToOrder (row : StoredOrder) : Except String PaymentOrder :=
  match (known providerText KNOWN_PROVIDERS).read row.provider with
  | none => .error ("Unexpected provider in payment_orders row: " ++ row.provider)
  | some provider =>
    match (known statusText KNOWN_STATUSES).read row.status with
    | none => .error ("Unexpected status in payment_orders row: " ++ row.status)
    | some status =>
      if row.currency ≠ "RUB" then
        .error ("Unexpected currency in payment_orders row: " ++ row.currency)
      else
        match (known paymentMethodText KNOWN_PAYMENT_METHODS).nullable.read row.paymentMethod with
        | none =>
          .error ("Unexpected payment_method in payment_orders row: " ++ row.paymentMethod.getD "")
        | some paymentMethod =>
          .ok {
            invoiceId := row.invoiceId
            amountRub := row.amountRub / 100
            description := row.description
            provider := provider
            status := status
            createdAt := readTime row.createdAt
            updatedAt := readTime row.updatedAt
            paidAt := row.paidAt.map readTime
            failedAt := row.failedAt.map readTime
            providerTransactionId := row.providerTransactionId.filter (· ≠ "")
            providerMessage := row.providerMessage.filter (· ≠ "")
            customerEmail := row.customerEmail
            receiptEmail := row.receiptEmail
            receipt := ⟨parse row.receipt, parse_ne_undefined row.receipt⟩
            metadata := (row.metadata.map parse).filter JsValue.truthy
            mockAutoConfirmAt := row.mockAutoConfirmAt.map readTime
            events := match row.events with
              | .array entries => parseEntries entries
              | _ => []
            customerComment := row.customerComment
            receiptTokenHash := row.receiptTokenHash
            grantedByOperatorId := row.grantedByOperatorId
            grantedByTeacherId := row.grantedByTeacherId
            paymentMethod := paymentMethod
            teacherAccountId := row.teacherAccountId }

def toInsertValues (order : PaymentOrder) : StoredOrder where
  invoiceId := order.invoiceId
  amountRub := roundHundredths order.amountRub
  currency := "RUB"
  description := order.description
  provider := providerText order.provider
  status := statusText order.status
  createdAt := order.createdAt * 1000
  updatedAt := order.updatedAt * 1000
  paidAt := order.paidAt.map (· * 1000)
  failedAt := order.failedAt.map (· * 1000)
  providerTransactionId := order.providerTransactionId.filter (· ≠ "")
  providerMessage := order.providerMessage.filter (· ≠ "")
  customerEmail := order.customerEmail
  receiptEmail := order.receiptEmail
  receipt := stringify order.receipt.1
  metadata := (order.metadata.filter JsValue.truthy).map stringify
  mockAutoConfirmAt := order.mockAutoConfirmAt.map (· * 1000)
  events := .array (stringifyEntries order.events)
  customerComment := order.customerComment
  receiptTokenHash := order.receiptTokenHash
  grantedByOperatorId := order.grantedByOperatorId
  paymentMethod := order.paymentMethod.map paymentMethodText
  grantedByTeacherId := order.grantedByTeacherId
  teacherAccountId := order.teacherAccountId

def getOrderPostgres (table : List StoredOrder) (invoiceId : InvoiceId) :
    Except String (Option PaymentOrder) :=
  match get StoredOrder.invoiceId table invoiceId with
  | none => .ok none
  | some row => (mapRowToOrder row).map some

/-- `updateOrderPostgres`.  The statement looks for the row under the id of the new object, and
fails when a constraint of the table refuses it; an error rolls everything back. -/
def updateOrderPostgres (accepts : StoredOrder -> Bool) (table : List StoredOrder)
    (invoiceId : InvoiceId) (updater : PaymentOrder -> PaymentOrder) :
    Except String (Option PaymentOrder) × List StoredOrder :=
  match get StoredOrder.invoiceId table invoiceId with
  | none => (.ok none, table)
  | some row =>
    match mapRowToOrder row with
    | .error error => (.error error, table)
    | .ok current =>
      let next := updater current
      if (get StoredOrder.invoiceId table next.invoiceId).isNone then (.ok (some next), table)
      else if accepts (toInsertValues next) then
        (.ok (some next), (Change.replace (toInsertValues next)).apply StoredOrder.invoiceId table)
      else (.error "constraint", table)

/-- The columns that the statement sets, with the fields they go to. -/
def columns : List (Column StoredOrder PaymentOrder) :=
  [⟨_, _, amount, (·.amountRub), (·.amountRub)⟩,
    ⟨_, _, .plain String, (·.description), (·.description)⟩,
    ⟨_, _, known providerText KNOWN_PROVIDERS, (·.provider), (·.provider)⟩,
    ⟨_, _, known statusText KNOWN_STATUSES, (·.status), (·.status)⟩,
    ⟨_, _, time, (·.createdAt), (·.createdAt)⟩,
    ⟨_, _, time, (·.updatedAt), (·.updatedAt)⟩,
    ⟨_, _, time.nullable, (·.paidAt), (·.paidAt)⟩,
    ⟨_, _, time.nullable, (·.failedAt), (·.failedAt)⟩,
    ⟨_, _, optionalText, (·.providerTransactionId), (·.providerTransactionId)⟩,
    ⟨_, _, optionalText, (·.providerMessage), (·.providerMessage)⟩,
    ⟨_, _, .plain String, (·.customerEmail), (·.customerEmail)⟩,
    ⟨_, _, .plain String, (·.receiptEmail), (·.receiptEmail)⟩,
    ⟨_, _, receipt, (·.receipt), (·.receipt)⟩,
    ⟨_, _, metadata, (·.metadata), (·.metadata)⟩,
    ⟨_, _, time.nullable, (·.mockAutoConfirmAt), (·.mockAutoConfirmAt)⟩,
    ⟨_, _, events, (·.events), (·.events)⟩,
    ⟨_, _, .plain (Option String), (·.customerComment), (·.customerComment)⟩,
    ⟨_, _, .plain (Option String), (·.receiptTokenHash), (·.receiptTokenHash)⟩,
    ⟨_, _, .plain (Option RowId), (·.grantedByOperatorId), (·.grantedByOperatorId)⟩,
    ⟨_, _, (known paymentMethodText KNOWN_PAYMENT_METHODS).nullable, (·.paymentMethod),
      (·.paymentMethod)⟩,
    ⟨_, _, .plain (Option RowId), (·.grantedByTeacherId), (·.grantedByTeacherId)⟩,
    ⟨_, _, .plain (Option RowId), (·.teacherAccountId), (·.teacherAccountId)⟩]

theorem nullable_time_read (stored : Option Int) :
    time.nullable.read stored = some (stored.map readTime) := by
  cases stored <;> rfl

theorem events_read (stored : Json) :
    events.read stored = some (match stored with
      | .array entries => parseEntries entries
      | _ => []) := by
  cases stored <;> rfl

theorem mapRowToOrder_eq_ok_iff {row : StoredOrder} {order : PaymentOrder} :
    mapRowToOrder row = .ok order <->
      row.currency = "RUB" ∧ row.invoiceId = order.invoiceId ∧ Column.Reads columns row order := by
  simp only [Column.Reads, columns, List.forall_mem_cons, nullable_time_read, events_read]
  constructor
  · intro read
    unfold mapRowToOrder at read
    split at read
    case h_1 => cases read
    case h_2 provider readProvider =>
      split at read
      case h_1 => cases read
      case h_2 status readStatus =>
        split at read
        case isTrue => cases read
        case isFalse rub =>
          split at read
          case h_1 => cases read
          case h_2 paymentMethod readMethod =>
            cases read
            exact ⟨not_not.mp rub, rfl, rfl, rfl, readProvider, readStatus, rfl, rfl, rfl, rfl, rfl,
              rfl, rfl, rfl, rfl, rfl, rfl, rfl, rfl, rfl, rfl, readMethod, rfl, rfl,
              fun _ no => absurd no List.not_mem_nil⟩
  · rintro ⟨rub, id, amountRub, description, readProvider, readStatus, createdAt, updatedAt, paidAt,
      failedAt, transactionId, message, customerEmail, receiptEmail, receipt, readMetadata,
      mockAutoConfirmAt, readEvents, comment, tokenHash, operatorId, readMethod, teacherId,
      accountId, -⟩
    cases order
    simp only [mapRowToOrder, readProvider, readStatus, readMethod, rub, id, ne_eq,
      not_true_eq_false, if_false]
    simp only [amount, Codec.plain, time, optionalText, OrderColumns.receipt, metadata,
      Codec.filtered, Option.some.injEq] at *
    subst_vars
    rfl

theorem writes_toInsertValues (order : PaymentOrder) :
    Column.Writes columns (toInsertValues order) order := by
  simp only [Column.Writes, columns, List.forall_mem_cons]
  exact ⟨rfl, rfl, rfl, rfl, rfl, rfl, rfl, rfl, rfl, rfl, rfl, rfl, rfl, rfl, rfl, rfl, rfl, rfl,
    rfl, rfl, rfl, rfl, fun _ no => absurd no List.not_mem_nil⟩

/-! ## What each column loses -/

theorem known_keeps {Value : Type} (text : Value -> String) (values : List Value)
    (stored : String) : (known text values).Keeps stored := by
  intro value read
  have found : values.find? (fun value => text value = stored) = some value := read
  change text value = stored
  simpa using List.find?_some found

theorem provider_returns (provider : OrderProvider) :
    (known providerText KNOWN_PROVIDERS).Returns provider := by
  cases provider <;> rfl

theorem status_returns (status : OrderStatus) :
    (known statusText KNOWN_STATUSES).Returns status := by
  cases status <;> rfl

theorem paymentMethod_returns (paymentMethod : Payments.OrderPaymentMethod) :
    (known paymentMethodText KNOWN_PAYMENT_METHODS).Returns paymentMethod := by
  cases paymentMethod <;> rfl

theorem time_keeps_iff {stored : Int} : time.Keeps stored <-> 1000000 ∣ stored := by
  simp only [Codec.Keeps, time, readTime, Option.some.injEq, forall_eq']
  omega

theorem time_returns_iff {ms : Int} : time.Returns ms <-> 1000 ∣ ms := by
  simp only [Codec.Returns, time, readTime, Option.some.injEq]
  omega

theorem receipt_keeps_iff {stored : Json} : receipt.Keeps stored <-> stored.Exact := by
  simp only [Codec.Keeps, receipt, Option.some.injEq, forall_eq', stringify_parse_iff]

theorem receipt_returns_iff {value : { value : JsValue // value ≠ .undefined }} :
    receipt.Returns value <-> value.1.Plain := by
  simp only [Codec.Returns, receipt, Option.some.injEq, Subtype.ext_iff, parse_stringify_iff]

theorem metadata_keeps_iff {stored : Option Json} :
    metadata.Keeps stored <-> ∀ json, stored = some json ->
      (parse json).truthy = true ∧ json.Exact := by
  cases stored with
  | none => simp [Codec.Keeps, metadata]
  | some json =>
    cases truthy : (parse json).truthy <;>
      simp [Codec.Keeps, metadata, truthy, stringify_parse_iff]

theorem metadata_returns_iff {value : Option JsValue} :
    metadata.Returns value <-> ∀ given, value = some given ->
      given.truthy = true ∧ given.Plain := by
  cases value with
  | none => simp [Codec.Returns, metadata]
  | some given =>
    cases truthy : given.truthy with
    | false => simp [Codec.Returns, metadata, truthy]
    | true =>
      simp only [Codec.Returns, metadata, Option.filter_some, truthy, if_true, Option.map_some,
        Option.some.injEq, forall_eq', true_and]
      rw [← parse_stringify_iff]
      constructor
      · intro same
        split at same
        · exact Option.some.inj same
        · cases same
      · intro same
        rw [same, if_pos truthy]

theorem events_keeps_iff {stored : Json} :
    events.Keeps stored <-> ∃ entries, stored = .array entries ∧
      ∀ entry, entry ∈ entries -> entry.Exact := by
  cases stored with
  | array entries => simp [Codec.Keeps, events, stringifyEntries_parse_iff]
  | _ => simp [Codec.Keeps, events]

theorem events_returns_iff {entries : List JsValue} :
    events.Returns entries <-> ∀ entry, entry ∈ entries -> entry.Plain := by
  simp only [Codec.Returns, events, Option.some.injEq, parseEntries_stringify_iff]

theorem roundHundredths_intCast (hundredths : Int) :
    roundHundredths ((hundredths : Rat) / 100) = hundredths := by
  have whole : 100 * ((hundredths : Rat) / 100) = hundredths := by
    rw [mul_div_cancel₀]
    norm_num
  have half : ⌊(1 / 2 : Rat)⌋ = 0 := by norm_num
  rw [roundHundredths, whole]
  split
  · rw [Int.floor_intCast_add, half, Int.add_zero]
  · rw [← Int.cast_neg, Int.floor_intCast_add, half, Int.add_zero, Int.neg_neg]

theorem amount_keeps (hundredths : Int) : amount.Keeps hundredths := by
  intro number read
  rw [← Option.some.inj read]
  exact roundHundredths_intCast hundredths

theorem amount_returns_iff {number : Rat} :
    amount.Returns number <-> ∃ hundredths : Int, number = hundredths / 100 := by
  simp only [Codec.Returns, amount, Option.some.injEq]
  constructor
  · intro same
    exact ⟨_, same.symm⟩
  · rintro ⟨hundredths, rfl⟩
    rw [roundHundredths_intCast]

/-! ## What the update keeps -/

/-- What the row must be like in the columns whose fields the updater leaves as they are. -/
structure Untouched (row : StoredOrder) (old new : PaymentOrder) : Prop where
  createdAt : new.createdAt = old.createdAt -> 1000000 ∣ row.createdAt
  updatedAt : new.updatedAt = old.updatedAt -> 1000000 ∣ row.updatedAt
  paidAt : new.paidAt = old.paidAt -> ∀ at_, row.paidAt = some at_ -> 1000000 ∣ at_
  failedAt : new.failedAt = old.failedAt -> ∀ at_, row.failedAt = some at_ -> 1000000 ∣ at_
  mockAutoConfirmAt : new.mockAutoConfirmAt = old.mockAutoConfirmAt ->
    ∀ at_, row.mockAutoConfirmAt = some at_ -> 1000000 ∣ at_
  providerTransactionId : new.providerTransactionId = old.providerTransactionId ->
    row.providerTransactionId ≠ some ""
  providerMessage : new.providerMessage = old.providerMessage -> row.providerMessage ≠ some ""
  receipt : new.receipt = old.receipt -> row.receipt.Exact
  metadata : new.metadata = old.metadata -> ∀ json, row.metadata = some json ->
    (parse json).truthy = true ∧ json.Exact
  events : new.events = old.events -> ∃ entries, row.events = .array entries ∧
    ∀ entry, entry ∈ entries -> entry.Exact

/-- What the updater must return for the next reader to read the same. -/
structure Readable (order : PaymentOrder) : Prop where
  amountRub : ∃ hundredths : Int, order.amountRub = hundredths / 100
  createdAt : 1000 ∣ order.createdAt
  updatedAt : 1000 ∣ order.updatedAt
  paidAt : ∀ at_, order.paidAt = some at_ -> 1000 ∣ at_
  failedAt : ∀ at_, order.failedAt = some at_ -> 1000 ∣ at_
  mockAutoConfirmAt : ∀ at_, order.mockAutoConfirmAt = some at_ -> 1000 ∣ at_
  providerTransactionId : order.providerTransactionId ≠ some ""
  providerMessage : order.providerMessage ≠ some ""
  receipt : order.receipt.1.Plain
  metadata : ∀ value, order.metadata = some value -> value.truthy = true ∧ value.Plain
  events : ∀ entry, entry ∈ order.events -> entry.Plain

theorem nonempty_iff {text : Option String} :
    (∀ value, text = some value -> decide (value ≠ "") = true) <-> text ≠ some "" := by
  cases text <;> simp

theorem untouched_iff {row : StoredOrder} {old new : PaymentOrder} :
    (∀ column, column ∈ columns -> column.field new = column.field old ->
        column.codec.Keeps (column.stored row)) <-> Untouched row old new := by
  simp only [columns, List.forall_mem_cons, amount_keeps, Codec.plain_keeps, known_keeps,
    Codec.nullable_keeps_iff, time_keeps_iff, receipt_keeps_iff, metadata_keeps_iff,
    events_keeps_iff, optionalText, Codec.filtered_keeps_iff, nonempty_iff, implies_true, true_and,
    List.not_mem_nil, false_implies, and_true]
  constructor
  · rintro ⟨createdAt, updatedAt, paidAt, failedAt, transactionId, message, receipt, metadata,
      confirmAt, events⟩
    exact ⟨createdAt, updatedAt, paidAt, failedAt, confirmAt, transactionId, message, receipt,
      metadata, events⟩
  · intro untouched
    exact ⟨untouched.createdAt, untouched.updatedAt, untouched.paidAt, untouched.failedAt,
      untouched.providerTransactionId, untouched.providerMessage, untouched.receipt,
      untouched.metadata, untouched.mockAutoConfirmAt, untouched.events⟩

theorem readable_iff {order : PaymentOrder} :
    (∀ column, column ∈ columns -> column.codec.Returns (column.field order)) <->
      Readable order := by
  simp only [columns, List.forall_mem_cons, amount_returns_iff, Codec.plain_returns,
    provider_returns, status_returns, paymentMethod_returns, Codec.nullable_returns_iff,
    time_returns_iff, receipt_returns_iff, metadata_returns_iff, events_returns_iff, optionalText,
    Codec.filtered_returns_iff, nonempty_iff, implies_true, true_and, List.not_mem_nil,
    false_implies, and_true]
  constructor
  · rintro ⟨amountRub, createdAt, updatedAt, paidAt, failedAt, transactionId, message, receipt,
      metadata, confirmAt, events⟩
    exact ⟨amountRub, createdAt, updatedAt, paidAt, failedAt, confirmAt, transactionId, message,
      receipt, metadata, events⟩
  · intro readable
    exact ⟨readable.amountRub, readable.createdAt, readable.updatedAt, readable.paidAt,
      readable.failedAt, readable.providerTransactionId, readable.providerMessage,
      readable.receipt, readable.metadata, readable.mockAutoConfirmAt, readable.events⟩

theorem updateOrderPostgres_unchanged {accepts : StoredOrder -> Bool} {table : List StoredOrder}
    {invoiceId : InvoiceId} {updater : PaymentOrder -> PaymentOrder}
    (unreturned : ∀ order, (updateOrderPostgres accepts table invoiceId updater).1 ≠
      .ok (some order)) :
    (updateOrderPostgres accepts table invoiceId updater).2 = table := by
  unfold updateOrderPostgres at unreturned ⊢
  split
  · rfl
  · rename_i row found
    simp only [found] at unreturned
    split
    · rfl
    · rename_i current read
      simp only [read] at unreturned
      dsimp only
      split
      · rfl
      · rename_i present
        split
        · rename_i accepted
          simp [present, accepted] at unreturned
        · rfl

theorem get_updateOrderPostgres {accepts : StoredOrder -> Bool} {table : List StoredOrder}
    {invoiceId : InvoiceId} {updater : PaymentOrder -> PaymentOrder} {row : StoredOrder}
    {old : PaymentOrder} (found : get StoredOrder.invoiceId table invoiceId = some row)
    (read : mapRowToOrder row = .ok old)
    (returned : (updateOrderPostgres accepts table invoiceId updater).1 =
      .ok (some (updater old))) :
    get StoredOrder.invoiceId (updateOrderPostgres accepts table invoiceId updater).2 invoiceId =
      some (if (updater old).invoiceId = invoiceId then toInsertValues (updater old) else row) := by
  simp only [updateOrderPostgres, found, read] at returned ⊢
  split
  case isTrue absent =>
    have other : (updater old).invoiceId ≠ invoiceId := by
      intro same
      rw [same, found] at absent
      cases absent
    rw [if_neg other]
    exact found
  case isFalse present =>
    rw [if_neg present] at returned
    split
    case isTrue =>
      rw [get_replaced, found]
      rfl
    case isFalse refused =>
      rw [if_neg refused] at returned
      cases returned

/-- An update keeps what its updater left alone, and returns what the next reader finds, if and
only if the updater keeps the id, the columns that it leaves alone lose nothing on the way, and
neither does what it returns. -/
theorem updateOrder_frame_iff {accepts : StoredOrder -> Bool} {table : List StoredOrder}
    {invoiceId : InvoiceId} {updater : PaymentOrder -> PaymentOrder} {row : StoredOrder}
    {old : PaymentOrder} (found : get StoredOrder.invoiceId table invoiceId = some row)
    (read : mapRowToOrder row = .ok old)
    (returned : (updateOrderPostgres accepts table invoiceId updater).1 =
      .ok (some (updater old))) :
    ((∃ after,
        get StoredOrder.invoiceId (updateOrderPostgres accepts table invoiceId updater).2
            invoiceId = some after ∧
          Column.Frame columns row after old (updater old)) ∧
      getOrderPostgres (updateOrderPostgres accepts table invoiceId updater).2 invoiceId =
        .ok (some (updater old))) <->
      (updater old).invoiceId = invoiceId ∧ Untouched row old (updater old) ∧
        Readable (updater old) := by
  have after := get_updateOrderPostgres found read returned
  have ⟨_, id, reads⟩ := mapRowToOrder_eq_ok_iff.mp read
  have writes := writes_toInsertValues (updater old)
  rw [getOrderPostgres, after]
  by_cases same : (updater old).invoiceId = invoiceId
  · simp only [same, if_true, true_and, Option.some.injEq, exists_eq_left']
    rw [Column.frame_iff reads writes, untouched_iff, ← readable_iff, ← Column.reads_iff writes]
    refine and_congr_right fun _ => ?_
    constructor
    · intro readBack
      cases again : mapRowToOrder (toInsertValues (updater old)) with
      | error error =>
        rw [again] at readBack
        cases readBack
      | ok order =>
        rw [again] at readBack
        cases readBack
        exact (mapRowToOrder_eq_ok_iff.mp again).2.2
    · intro readBack
      rw [mapRowToOrder_eq_ok_iff.mpr ⟨rfl, rfl, readBack⟩]
      rfl
  · simp only [same, if_false, false_and, iff_false, not_and, read]
    intro _ readBack
    have unchanged : old = updater old := Option.some.inj (Except.ok.inj readBack)
    exact same (by rw [← unchanged, ← id, key_of_get found])

/-- A pending order that was created at the given time. -/
def pendingRow (createdAt : Int) : StoredOrder where
  invoiceId := .generated (.seeded 0)
  amountRub := 350000
  currency := "RUB"
  description := "Урок"
  provider := "cloudpayments"
  status := "pending"
  createdAt := createdAt
  updatedAt := createdAt
  paidAt := none
  failedAt := none
  providerTransactionId := none
  providerMessage := none
  customerEmail := "learner@example.com"
  receiptEmail := "learner@example.com"
  receipt := .object []
  metadata := none
  mockAutoConfirmAt := none
  events := .array []
  customerComment := none
  receiptTokenHash := none
  grantedByOperatorId := none
  paymentMethod := some "card"
  grantedByTeacherId := none
  teacherAccountId := none

/-- What is read of it. -/
def pendingOrder (createdAt : Int) : PaymentOrder where
  invoiceId := .generated (.seeded 0)
  amountRub := (350000 : Int) / 100
  description := "Урок"
  provider := .cloudpayments
  status := .pending
  createdAt := readTime createdAt
  updatedAt := readTime createdAt
  paidAt := none
  failedAt := none
  providerTransactionId := none
  providerMessage := none
  customerEmail := "learner@example.com"
  receiptEmail := "learner@example.com"
  receipt := ⟨.object [], by simp⟩
  metadata := none
  mockAutoConfirmAt := none
  events := []
  customerComment := none
  receiptTokenHash := none
  grantedByOperatorId := none
  paymentMethod := some .card
  grantedByTeacherId := none
  teacherAccountId := none

def noteMessage (order : PaymentOrder) : PaymentOrder :=
  { order with providerMessage := some "Платёж отклонён или отменён." }

theorem mapRowToOrder_pendingRow (createdAt : Int) :
    mapRowToOrder (pendingRow createdAt) = .ok (pendingOrder createdAt) :=
  rfl

/-- At a whole second nothing is lost. -/
theorem updateOrder_frame_iff_wholeSecond :
    getOrderPostgres (updateOrderPostgres (fun _ => true) [pendingRow 1768903200000000]
        (.generated (.seeded 0)) noteMessage).2 (.generated (.seeded 0)) =
      .ok (some (noteMessage (pendingOrder 1768903200000000))) :=
  have untouched : Untouched (pendingRow 1768903200000000) (pendingOrder 1768903200000000)
      (noteMessage (pendingOrder 1768903200000000)) := by
    constructor
    case receipt => exact fun _ => .object fun _ member => absurd member List.not_mem_nil
    all_goals simp [pendingRow, noteMessage]
  have readable : Readable (noteMessage (pendingOrder 1768903200000000)) := by
    constructor
    case amountRub => exact ⟨350000, rfl⟩
    case receipt => exact .object fun _ member => absurd member List.not_mem_nil
    all_goals simp [pendingOrder, noteMessage, readTime]
  ((updateOrder_frame_iff rfl (mapRowToOrder_pendingRow 1768903200000000) rfl).mpr
    ⟨rfl, untouched, readable⟩).2

/-- An order that was created 345 milliseconds after a whole second is updated with a message, and
its creation has moved to the second. -/
theorem updateOrder_moves_createdAt :
    ¬∀ (accepts : StoredOrder -> Bool) (table : List StoredOrder) (invoiceId : InvoiceId)
      (updater : PaymentOrder -> PaymentOrder) (row : StoredOrder) (old : PaymentOrder),
      get StoredOrder.invoiceId table invoiceId = some row -> mapRowToOrder row = .ok old ->
      (updateOrderPostgres accepts table invoiceId updater).1 = .ok (some (updater old)) -> ∃ after,
        get StoredOrder.invoiceId (updateOrderPostgres accepts table invoiceId updater).2
            invoiceId = some after ∧ Column.Frame columns row after old (updater old) := by
  intro always
  have read := mapRowToOrder_pendingRow 1768903200345000
  obtain ⟨after, stored, frame⟩ := always (fun _ => true) [pendingRow 1768903200345000]
    (.generated (.seeded 0)) noteMessage _ _ rfl read rfl
  have kept : after.createdAt = 1768903200345000 :=
    frame ⟨_, _, time, (·.createdAt), (·.createdAt)⟩ (by simp [columns]) rfl
  have written : after = toInsertValues (noteMessage (pendingOrder 1768903200345000)) :=
    Option.some.inj stored.symm
  rw [written] at kept
  revert kept
  decide

end OrderColumns

end LevelChannel
