import LevelChannel.Schema.Text
import LevelChannel.Packages.Consumption

namespace LevelChannel

open Tables

/-!
# Granting a package

The four ways a learner comes to own a package: the checkout, which only records an
order; the grant of a paid order, run by the webhook, by mock confirmation and by the
operator's retry; the operator's grant; and the teacher's.  All four take the advisory
lock on account and duration, and look for an active package behind it.  The routes are
modelled from the point where the session, rate-limit and idempotency checks have
passed.
-/

/-- `PACKAGE_EXPIRY_DAYS`, in milliseconds. -/
def packageExpiryMs : Nat := 180 * 24 * 60 * 60 * 1000

namespace Db

def order? (db : Db) (invoiceId : InvoiceId) : Option PaymentOrder :=
  get PaymentOrder.invoiceId db.orders invoiceId

/-- The purchase of an order; `payment_order_id` is unique. -/
def purchaseOfOrder? (db : Db) (invoiceId : InvoiceId) : Option PackagePurchase :=
  get PackagePurchase.paymentOrderId db.purchases invoiceId

def active (db : Db) (purchase : PackagePurchase) : Bool :=
  purchase.voidedAt.isNone && db.clock < purchase.expiresAt && db.hasRemaining purchase

/-- `learnerHasActivePackageOfDuration`: the first to expire of the active purchases of
an account, for a duration and a teacher. -/
def learnerHasActivePackageOfDuration (db : Db) (accountId : RowId) (durationMinutes : Nat)
    (teacherId : RowId) : Option PackagePurchase :=
  ((db.purchases.filter fun row =>
      row.accountId = accountId && row.durationMinutes = durationMinutes &&
        row.teacherId = some teacherId && db.active row).mergeSort
    fun first second => first.expiresAt ≤ second.expiresAt).head?

/-- `accountHasPendingPackageGrantForDuration`: an unpaid package order of the last 15
minutes.  The account is compared as text. -/
def accountHasPendingPackageGrantForDuration (db : Db) (accountId : UuidText)
    (durationMinutes : Nat) (teacherId : RowId) : Bool :=
  db.orders.any fun row =>
    row.metadataAccountId = some accountId && row.metadataPackageSlug.isSome &&
      row.metadataPackageDurationMinutes = some durationMinutes &&
      row.teacherAccountId = teacherId &&
      (row.status = .pending || row.status = .threeDsRequired) &&
      db.clock < row.createdAt + 15 * 60 * 1000

end Db

namespace Program

/-- `pg_advisory_xact_lock(hashtextextended('pkg-stack:' || $1 || ':' || $2, 0))` -/
def lockStack (accountId : UuidText) (durationMinutes : Nat) (onError next : Program) : Program :=
  locking [(AdvisoryKey.pkgStack accountId durationMinutes).lock] onError fun _ => next

/-- `insert into payment_orders`. -/
def insertOrder (row : PaymentOrder) (onError : Program) (onDuplicate : Program)
    (next : Program) : Program :=
  checkedOr [(LockTarget.order row.invoiceId).forUpdate] onError (fun _ => onDuplicate)
    (fun own => if (own.order? row.invoiceId).isSome then some "23505" else none)
    (fun _ => [.order (.insert row)])
    fun _ => next

/-- `createPackagePurchase`, an insert `on conflict (payment_order_id) do nothing`. -/
def createPackagePurchase (row : PackagePurchase) (onError : Program) (next : Bool -> Program) :
    Program :=
  checked
    [(LockTarget.purchase row.id).forUpdate,
      (LockTarget.purchaseOfOrder row.paymentOrderId).forUpdate,
      (LockTarget.order row.paymentOrderId).forKeyShare]
    onError
    (fun own => (own.purchaseOfOrder? row.paymentOrderId).isNone &&
      ((own.purchase? row.id).isSome || (own.order? row.paymentOrderId).isNone))
    (fun own =>
      if (own.purchaseOfOrder? row.paymentOrderId).isSome then [] else [.purchase (.insert row)])
    fun own => next (own.purchaseOfOrder? row.paymentOrderId).isNone

def purchaseOf (id accountId packageId : RowId) (package : LessonPackage)
    (paymentOrderId : InvoiceId) (expiresAt : Nat) : PackagePurchase where
  id := id
  accountId := accountId
  packageId := packageId
  teacherId := some package.teacherId
  paymentOrderId := paymentOrderId
  amountKopecks := package.amountKopecks
  titleSnapshot := package.titleRu
  durationMinutes := package.durationMinutes
  countInitial := package.lessonCount
  expiresAt := expiresAt
  voidedAt := none

/-- `insert into payment_allocations .. on conflict do nothing`. -/
def allocatePackage (paymentOrderId : InvoiceId) (purchaseId : RowId) (amountKopecks : Nat)
    (onError next : Program) : Program :=
  let key : AllocationKey := ⟨paymentOrderId, .package, .canonical purchaseId⟩
  execute [(LockTarget.allocation key).forUpdate, (LockTarget.order paymentOrderId).forKeyShare]
    onError (fun _ => [.allocation ⟨key, amountKopecks⟩]) fun _ => next

/-- The package of an order: by its id, or by the slug of an order from before ids were
recorded. -/
def packageOfOrder (catalog : Catalog) (order : PaymentOrder) : Option (RowId × LessonPackage) :=
  let byId := order.metadataPackageId.bind fun id =>
    (catalog.package id).map fun package => (id, package)
  byId.or (order.metadataPackageSlug.bind fun slug =>
    if slug = "" then none
    else (catalog.packagesBySlug slug).head?.bind fun id =>
      (catalog.package id).map fun package => (id, package))

/-- The transaction of `processPackageGrant`. -/
def grantPaidOrder (session : Nat) (invoiceId : InvoiceId) (accountId packageId : RowId)
    (package : LessonPackage) (expiresAt : Nat) (next : String -> Program) : Program :=
  let onError := next "thrown"
  let purchaseId := RowId.minted session 1
  begin onError fun _ =>
    lockStack (.canonical accountId) package.durationMinutes onError
      (query onError fun _ own =>
        -- the replay check comes first: the active package may be this order's own
        match own.purchaseOfOrder? invoiceId with
        | some _ => .commit onError (next "already_granted")
        | none =>
          query onError fun committed _ =>
            match committed.learnerHasActivePackageOfDuration accountId package.durationMinutes
                package.teacherId with
            | some _ => .commit onError (next "already_owns_active_package")
            | none =>
              createPackagePurchase
                (purchaseOf purchaseId accountId packageId package invoiceId expiresAt) onError
                fun created =>
                  if created then
                    allocatePackage invoiceId purchaseId package.amountKopecks onError
                      (.commit onError (next "granted"))
                  else .commit onError (next "already_granted"))

/-- `processPackageGrant`; its result is handed on as the kind or the semantic failure. -/
def processPackageGrantThen (session : Nat) (invoiceId : InvoiceId) (next : String -> Program) :
    Program :=
  let onError := next "thrown"
  query onError fun committed _ =>
    match committed.order? invoiceId with
    | none => next "no_metadata_accountid"
    | some order =>
      match order.metadataAccountId with
      | none => next "no_metadata_accountid"
      | some metaAccountId =>
        query onError fun committed _ =>
          if (committed.catalog.accountEmail metaAccountId.id).isNone then
            next "metadata_accountid_unknown"
          else
            match order.customerEmail.filter fun email => jsTrim email ≠ "" with
            | none => next "no_customer_email"
            | some customerEmail =>
              query onError fun committed _ =>
                match committed.catalog.accountsByEmail customerEmail with
                | [] => next "no_account_match"
                | emailResolvedId :: others =>
                  if others ≠ [] then next "multi_account_match"
                  else if metaAccountId.id ≠ emailResolvedId then next "metadata_email_mismatch"
                  else if order.metadataPackageId.isNone && order.metadataPackageSlug.isNone then
                    next "no_metadata_accountid"
                  else
                    query onError fun committed _ =>
                      match (packageOfOrder committed.catalog order).filter fun found =>
                          found.2.isActive with
                      | none => next "package_unknown_or_inactive"
                      | some (packageId, package) =>
                        query onError fun committed _ =>
                          let paidAt := ((committed.order? invoiceId).bind
                            PaymentOrder.paidAt).getD committed.clock
                          grantPaidOrder session invoiceId metaAccountId.id packageId package
                            (paidAt + packageExpiryMs) next

/-- `processPackageGrant`, as the webhook and the operator's retry run it. -/
def processPackageGrant (session : Nat) (invoiceId : InvoiceId) : Program :=
  processPackageGrantThen session invoiceId fun outcome => .done (.returned outcome [])

/-- A package checkout of a learner: the slug of the path and the query's ids. -/
structure CheckoutRequest where
  accountId : RowId
  slug : String
  explicitPackageId : Option RowId
  explicitTeacherId : Option RowId
  cloudPayments : Bool
  mockConfirm : Bool
  deriving DecidableEq

def checkoutPackage (catalog : Catalog) (request : CheckoutRequest) :
    Except String (RowId × LessonPackage) :=
  let named (id : RowId) : Option (RowId × LessonPackage) :=
    (catalog.package id).map fun package => (id, package)
  let found : Except String (Option (RowId × LessonPackage)) :=
    match request.explicitPackageId, request.explicitTeacherId with
    | some packageId, _ =>
      .ok ((named packageId).filter fun found => found.2.slug = request.slug)
    | none, some teacherId =>
      .ok (((catalog.packagesBySlug request.slug).filterMap named).find? fun found =>
        found.2.teacherId = teacherId)
    | none, none =>
      if 1 < (catalog.packagesBySlug request.slug).length then .error "package_slug_ambiguous"
      else .ok ((catalog.packagesBySlug request.slug).head?.bind named)
  found.bind fun package =>
    match package.filter fun found => found.2.isActive && (!found.2.isPrivate ||
        catalog.packageAccess found.1 request.accountId) with
    | none => .error "package_not_found"
    | some package => .ok package

def checkoutOrder (session now : Nat) (request : CheckoutRequest) (packageId : RowId)
    (package : LessonPackage) (teacherAccountId : RowId) (customerEmail : Option String) :
    PaymentOrder :=
  let confirmed := !request.cloudPayments && request.mockConfirm
  { invoiceId := .generated (.minted session 0)
    amountKopecks := package.amountKopecks
    status := if confirmed then .paid else .pending
    provider := if request.cloudPayments then .cloudpayments else .mock
    providerTransactionId := none
    customerEmail := customerEmail
    metadataAccountId := some (.canonical request.accountId)
    metadataPackageId := some packageId
    metadataPackageSlug := some package.slug
    metadataPackageDurationMinutes := some package.durationMinutes
    teacherAccountId := teacherAccountId
    grantedByTeacherId := none
    createdAt := now
    paidAt := if confirmed then some now else none }

/-- The transaction of the checkout. -/
def recordCheckout (session : Nat) (request : CheckoutRequest) (packageId : RowId)
    (package : LessonPackage) (teacherAccountId : RowId) (customerEmail : Option String) :
    Program :=
  let onError : Program := .done (.thrown driverError)
  let accountId := request.accountId
  let invoiceId := InvoiceId.generated (.minted session 0)
  let answer : Program := .done (.json 200 [])
  begin onError fun now =>
    lockStack (.canonical accountId) package.durationMinutes onError
      (query onError fun committed _ =>
        if committed.accountHasPendingPackageGrantForDuration (.canonical accountId)
            package.durationMinutes package.teacherId then
          .commit onError (.done (.refused 409 "pending_package_in_flight"
            "У вас уже есть незавершённый платёж на пакет такой же длительности. Дождитесь подтверждения первой оплаты или попробуйте позже."))
        else
          query onError fun committed _ =>
            match committed.learnerHasActivePackageOfDuration accountId package.durationMinutes
                package.teacherId with
            | some ownedActive =>
              let title := ownedActive.titleSnapshot
              .commit onError (.done (.refused 409 "already_owns_active_package"
                s!"У вас уже есть активный пакет такой же длительности ({title}). Дождитесь его завершения."))
            | none =>
              insertOrder
                (checkoutOrder session now request packageId package teacherAccountId
                  customerEmail)
                onError onError
                (.commit onError
                  (if !request.cloudPayments && request.mockConfirm then
                    processPackageGrantThen session invoiceId fun _ => answer
                  else answer)))

/-- `POST /api/checkout/package/[slug]`. -/
def checkout (session : Nat) (request : CheckoutRequest) : Program :=
  let onError : Program := .done (.thrown driverError)
  query onError fun committed _ =>
    if committed.catalog.learnerCandidate request.accountId = false then
      .done (.refused 403 "learner_target_unavailable" "")
    else
      query onError fun committed _ =>
        match checkoutPackage committed.catalog request with
        | .error "package_slug_ambiguous" =>
          .done (.refused 400 "package_slug_ambiguous"
            "Этот slug пакета принадлежит нескольким учителям. Перейдите по ссылке вида ?packageId=<uuid> или ?teacher=<uuid>, чтобы выбрать нужного учителя.")
        | .error error => .done (.refused 404 error "")
        | .ok (packageId, package) =>
          query onError fun committed _ =>
            match committed.catalog.teacherOfPackageOrder packageId with
            | none =>
              .done (.refused 500 "teacher_resolution_failed"
                "Не удалось определить учителя пакета.")
            | some teacherAccountId =>
              if committed.catalog.operatorManaged teacherAccountId = false then
                .done (.refused 422 "plan_4_required"
                  "Этот учитель не использует платформенную оплату. Оплатите занятия напрямую учителю.")
              else
                recordCheckout session request packageId package teacherAccountId
                  (committed.catalog.accountEmail request.accountId)

def grantOrder (invoiceId : InvoiceId) (now : Nat) (status : OrderStatus)
    (provider : OrderProvider) (accountId : UuidText) (packageId : RowId)
    (package : LessonPackage) (teacherAccountId : RowId) (grantedByTeacherId : Option RowId)
    (customerEmail : String) : PaymentOrder where
  invoiceId := invoiceId
  amountKopecks := package.amountKopecks
  status := status
  provider := provider
  providerTransactionId := none
  customerEmail := some customerEmail
  metadataAccountId := some accountId
  metadataPackageId := some packageId
  metadataPackageSlug := some package.slug
  metadataPackageDurationMinutes := some package.durationMinutes
  teacherAccountId := teacherAccountId
  grantedByTeacherId := grantedByTeacherId
  createdAt := now
  paidAt := none

def stackingGate (allowStacking : Bool) (accountId : RowId) (package : LessonPackage)
    (onError : Program) (owned : PackagePurchase -> Program) (next : Program) : Program :=
  if allowStacking then next
  else
    query onError fun committed _ =>
      match committed.learnerHasActivePackageOfDuration accountId package.durationMinutes
          package.teacherId with
      | some ownedActive => .commit onError (owned ownedActive)
      | none => next

structure AdminGrantRequest where
  packageId : UuidText
  targetAccountId : Option UuidText
  reason : Option String
  allowStacking : Bool
  deriving DecidableEq

/-- `deterministicInvoiceId` -/
def adminInvoiceId (session : Nat) (request : AdminGrantRequest) (targetAccountId : UuidText)
    (nowMs : Nat) : InvoiceId :=
  if request.allowStacking then .generated (.minted session 0)
  else .adminGrant request.packageId targetAccountId (nowMs / 86400000)

/-- The transaction of an operator's grant. -/
def grantByAdmin (session : Nat) (request : AdminGrantRequest) (targetAccountId : UuidText)
    (package : LessonPackage) (targetEmail : String) : Program :=
  let onError : Program := .done (.thrown driverError)
  let purchaseId := RowId.minted session 1
  let duplicate : Program :=
    if request.allowStacking then onError
    else
      .done (.refused 409 "duplicate_grant_today"
        "Этому ученику уже был выдан этот пакет сегодня. Передай allowStacking: true или жди следующего дня.")
  let owned (ownedActive : PackagePurchase) : Program :=
    let title := ownedActive.titleSnapshot
    .done (.refused 409 "already_owns_active_package"
      s!"Учитель уже имеет активный пакет такой же длительности ({title}). Передай allowStacking: true чтобы разрешить стэк.")
  begin onError fun now =>
    lockStack targetAccountId package.durationMinutes onError
      (stackingGate request.allowStacking targetAccountId.id package onError owned
        (dateNow onError fun nowMs =>
          let invoiceId := adminInvoiceId session request targetAccountId nowMs
          query onError fun committed _ =>
            match committed.catalog.teacherOfPackageOrder request.packageId.id with
            | none => .rollback (.done (.refused 500 "teacher_resolution_failed" ""))
            | some teacherAccountId =>
              insertOrder
                (grantOrder invoiceId now .granted .adminGrant targetAccountId
                  request.packageId.id package teacherAccountId none targetEmail)
                onError duplicate
                (createPackagePurchase
                  (purchaseOf purchaseId targetAccountId.id request.packageId.id package invoiceId
                    (nowMs + packageExpiryMs))
                  onError
                  fun created =>
                    if created then
                      allocatePackage invoiceId purchaseId package.amountKopecks onError
                        (.commit onError (.done (.json 201 [purchaseId])))
                    else .rollback (.done (.refused 500 "purchase_insert_returned_null" "")))))

/-- `POST /api/admin/packages/[id]/grant`. -/
def adminGrant (session : Nat) (request : AdminGrantRequest) : Program :=
  let onError : Program := .done (.thrown driverError)
  match request.targetAccountId with
  | none => .done (.refused 400 "invalid_target_account_id" "")
  | some targetAccountId =>
    if trimmedText 1024 request.reason = none then
      .done (.refused 400 "reason_required" "Укажите причину выдачи пакета (≤1024 символа).")
    else
      query onError fun committed _ =>
        if committed.catalog.learnerCandidate targetAccountId.id = false then
          .done (.refused 422 "target_account_unavailable"
            "Target account is not a valid learner target (admin/teacher/unverified/deletion-grace/purged).")
        else
          query onError fun committed _ =>
            match committed.catalog.package request.packageId.id with
            | none => .done (.refused 404 "package_not_found" "")
            | some package =>
              if package.isActive = false then
                .done (.refused 422 "package_inactive" "Cannot grant an inactive package.")
              else
                query onError fun committed _ =>
                  match committed.catalog.accountEmail targetAccountId.id with
                  | none => .done (.refused 422 "target_account_missing" "")
                  | some targetEmail =>
                    grantByAdmin session request targetAccountId package targetEmail

/-- The arguments of `issueTeacherPackageGrant`; the learner's id is the text of the
body. -/
structure TeacherGrantRequest where
  teacherAccountId : RowId
  learnerAccountId : UuidText
  packageId : RowId
  allowStacking : Bool
  deriving DecidableEq

/-- The transaction of `issueTeacherPackageGrant`. -/
def grantByTeacher (session : Nat) (request : TeacherGrantRequest) (package : LessonPackage)
    (learnerEmail : String) (expiresAt : Nat) : Program :=
  let onError : Program := .done (.thrown driverError)
  let purchaseId := RowId.minted session 1
  let invoiceId := InvoiceId.generated (.minted session 0)
  let owned (ownedActive : PackagePurchase) : Program :=
    .done (.returned "already_owns_active_package" [ownedActive.id])
  begin onError fun now =>
    lockStack request.learnerAccountId package.durationMinutes onError
      (stackingGate request.allowStacking request.learnerAccountId.id package onError owned
        (insertOrder
          (grantOrder invoiceId now .teacherGranted .teacherGrant request.learnerAccountId
            request.packageId package request.teacherAccountId (some request.teacherAccountId)
            learnerEmail)
          onError onError
          (createPackagePurchase
            (purchaseOf purchaseId request.learnerAccountId.id request.packageId package
              invoiceId expiresAt)
            onError
            fun created =>
              if created then
                allocatePackage invoiceId purchaseId package.amountKopecks onError
                  (.commit onError (.done (.returned "granted" [purchaseId])))
              else .rollback (.done (.returned "package_not_found" [])))))

def issueTeacherPackageGrant (session : Nat) (request : TeacherGrantRequest) : Program :=
  let onError : Program := .done (.thrown driverError)
  let answer (kind : String) : Program := .done (.returned kind [])
  query onError fun committed _ =>
    match committed.catalog.package request.packageId with
    | none => answer "package_not_found"
    | some package =>
      if package.isActive = false then answer "package_inactive"
      else if package.teacherId ≠ request.teacherAccountId then answer "package_not_owned"
      else
        query onError fun committed _ =>
          if committed.catalog.linked request.teacherAccountId request.learnerAccountId.id =
              false then
            answer "learner_not_linked"
          else
            query onError fun committed _ =>
              match committed.catalog.accountEmail request.learnerAccountId.id with
              | none => answer "learner_account_missing"
              | some learnerEmail =>
                dateNow onError fun nowMs =>
                  grantByTeacher session request package learnerEmail (nowMs + packageExpiryMs)

/-- `revokeTeacherPackageGrant`; without a teacher it is the operator's override. -/
def revokeTeacherPackageGrant (invoiceId : InvoiceId) (teacherAccountId : Option RowId) : Program :=
  let onError : Program := .done (.thrown driverError)
  let refuse (kind : String) : Program := .rollback (.done (.returned kind []))
  begin onError fun now =>
    locking [(LockTarget.order invoiceId).forUpdate] onError fun own =>
      match own.order? invoiceId with
      | none => refuse "order_not_found"
      | some order =>
        if order.provider ≠ .teacherGrant then refuse "order_not_teacher_grant"
        else if teacherAccountId.any fun teacher => order.grantedByTeacherId ≠ some teacher then
          refuse "order_not_owned_by_teacher"
        else if order.status = .teacherRevoked then refuse "already_revoked"
        else
          query onError fun _ own =>
            match own.purchaseOfOrder? invoiceId with
            | none => refuse "purchase_not_found"
            | some found =>
              locking [(LockTarget.purchase found.id).forUpdate] onError fun _ =>
                query onError fun _ own =>
                  if 0 < own.activeCount found.id then refuse "has_completed_consumptions"
                  else
                    restoreAllConsumptionsForPurchase now found.id .teacher
                      (some (if teacherAccountId.isNone then "admin_revoke_teacher_grant"
                        else "teacher_revoke"))
                      onError
                      (execute [(LockTarget.order invoiceId).forNoKeyUpdate] onError
                        (fun own => match own.order? invoiceId with
                          | none => []
                          | some row => [.order (.replace { row with status := .teacherRevoked })])
                        fun _ => .commit onError (.done (.returned "revoked" [found.id])))

end Program

end LevelChannel
