import LevelChannel.Schema.Identifiers

namespace LevelChannel

/-!
# What the routes look up

Prices, links, preferences and calendars.  The modelled routes only read them, and
they may change at any time, so they are kept as functions instead of tables.
-/

/-- A row of `pricing_tariffs`. -/
structure PricingTariff where
  teacherId : Option RowId
  durationMinutes : Nat
  amountKopecks : Nat
  isActive : Bool
  isDeleted : Bool
  isPrivate : Bool
  deriving DecidableEq, Repr

/-- A row of `lesson_packages`. -/
structure LessonPackage where
  slug : String
  titleRu : String
  teacherId : RowId
  durationMinutes : Nat
  lessonCount : Nat
  amountKopecks : Nat
  isActive : Bool
  isPrivate : Bool
  deriving DecidableEq, Repr

/-- `learner_billing_preferences.payment_method`. -/
inductive PaymentMethod where
  | none
  | postpaid
  deriving DecidableEq, Repr

/-- A row of `teacher_payment_methods`. -/
structure SbpMethod where
  teacherAccountId : RowId
  isArchived : Bool
  deriving DecidableEq, Repr

structure Catalog where
  tariff : RowId -> Option PricingTariff
  tariffAccess : (tariffId learnerAccountId : RowId) -> Bool
  package : RowId -> Option LessonPackage
  packagesBySlug : String -> List RowId
  packageAccess : (packageId learnerAccountId : RowId) -> Bool
  paymentMethod : (teacherAccountId learnerAccountId : RowId) -> PaymentMethod
  linked : (teacherAccountId learnerAccountId : RowId) -> Bool
  cancelWindowMinutes : (teacherAccountId : RowId) -> Option Nat
  chargeOnNoShow : (teacherAccountId : RowId) -> Bool
  chargeOnLateCancel : (teacherAccountId : RowId) -> Bool
  busy : (teacherAccountId : RowId) -> (startAt durationMinutes : Nat) -> Bool
  sbpMethod : RowId -> Option SbpMethod
  accountEmail : (accountId : RowId) -> Option String
  accountsByEmail : (customerEmail : String) -> List RowId
  learnerCandidate : (accountId : RowId) -> Bool
  teacherOfPackageOrder : (packageId : RowId) -> Option RowId
  operatorManaged : (teacherAccountId : RowId) -> Bool

/-- Nothing on offer, nobody linked, no calendar. -/
def Catalog.empty : Catalog where
  tariff _ := .none
  tariffAccess _ _ := false
  package _ := .none
  packagesBySlug _ := []
  packageAccess _ _ := false
  paymentMethod _ _ := .none
  linked _ _ := false
  cancelWindowMinutes _ := .none
  chargeOnNoShow _ := false
  chargeOnLateCancel _ := false
  busy _ _ _ := false
  sbpMethod _ := .none
  accountEmail _ := .none
  accountsByEmail _ := []
  learnerCandidate _ := false
  teacherOfPackageOrder _ := .none
  operatorManaged _ := false

end LevelChannel
