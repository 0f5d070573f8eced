import Mathlib.Data.List.MinMax
import LevelChannel.Tables.Rows
import LevelChannel.Schema.Identifiers
import LevelChannel.Schema.Text

namespace LevelChannel

open Tables

namespace Methods

/-!
# Payment methods of a teacher

A teacher keeps a list of phone numbers and banks for transfers, one of which is the
default.  Rows are archived, not deleted.  Two partial unique indexes look at the active
rows: one phone and bank of a teacher is active once, and at most one active row of a
teacher is the default.  That there is a default at all, and that there are no more than
ten active rows, is left to the functions below.
-/

/-- A row of `teacher_payment_methods`. -/
structure PaymentMethod where
  id : RowId
  teacherAccountId : RowId
  phoneE164 : String
  phoneDisplay : String
  bankLabel : String
  isDefault : Bool
  createdAt : Nat
  archivedAt : Option Nat
  deriving DecidableEq, Repr

/-- `normalizePhoneRu`.  The last check of the source, that the result has the form of a
Russian number, holds of ten digits after `+7`. -/
def normalizePhoneRu (input : String) : Option String :=
  let digits := input.toList.filter Char.isDigit
  let body :=
    if digits.length = 11 ∧ (digits.head? = some '7' ∨ digits.head? = some '8') then
      some digits.tail
    else if digits.length = 10 then some digits
    else none
  body.map fun digits => String.ofList ('+' :: '7' :: digits)

def formatPhoneRu (e164 : String) : String :=
  match e164.toList with
  | '+' :: '7' :: body =>
    if body.length = 10 ∧ body.all Char.isDigit then
      String.ofList ("+7 (".toList ++ body.take 3 ++ ") ".toList ++ (body.drop 3).take 3 ++
        "-".toList ++ (body.drop 6).take 2 ++ "-".toList ++ body.drop 8)
    else e164
  | _ => e164

def validBankLabel (bankLabel : String) : Option String :=
  let trimmed := jsTrim bankLabel
  if jsLength trimmed = 0 ∨ 80 < jsLength trimmed then none else some trimmed

namespace PaymentMethod

/-- `archived_at is null` -/
def active (row : PaymentMethod) : Bool :=
  row.archivedAt.isNone

/-- `teacher_account_id = $1 and archived_at is null` -/
def activeOf (teacherAccountId : RowId) (row : PaymentMethod) : Bool :=
  row.teacherAccountId = teacherAccountId && row.active

def clashes (first second : PaymentMethod) : Bool :=
  first.active && second.active && first.teacherAccountId = second.teacherAccountId &&
    ((first.phoneE164 = second.phoneE164 && first.bankLabel = second.bankLabel) ||
      (first.isDefault && second.isDefault))

end PaymentMethod

def activeMethods (rows : List PaymentMethod) (teacherAccountId : RowId) : List PaymentMethod :=
  rows.filter (PaymentMethod.activeOf teacherAccountId)

def refuses (rows : List PaymentMethod) (row : PaymentMethod) : Bool :=
  rows.any fun other => other.id ≠ row.id && other.clashes row

/-- `set is_default = false` for the active default of a teacher, except one row. -/
def clearDefault (rows : List PaymentMethod) (teacherAccountId : RowId)
    (except : Option RowId) : List PaymentMethod :=
  rows.map fun row =>
    if row.activeOf teacherAccountId && row.isDefault && some row.id ≠ except then
      { row with isDefault := false }
    else row

def updateRow (rows : List PaymentMethod) (row : PaymentMethod) : Option (List PaymentMethod) :=
  if refuses rows row then none else some ((Change.replace row).apply PaymentMethod.id rows)

def insertRow (rows : List PaymentMethod) (row : PaymentMethod) : Option (List PaymentMethod) :=
  if (get PaymentMethod.id rows row.id).isSome || refuses rows row then none
  else some ((Change.insert row).apply PaymentMethod.id rows)

inductive MethodResult where
  | ok (method : PaymentMethod) (reused : Bool)
  | failed (reason : String)
  | archived
  | thrown
  deriving DecidableEq, Repr

/-- The end of a transaction: the new table, or the old one when a statement was refused. -/
def finish (rows : List PaymentMethod) (after : Option (List PaymentMethod))
    (result : MethodResult) : MethodResult × List PaymentMethod :=
  match after with
  | none => (.thrown, rows)
  | some after => (result, after)

/-! ## The functions -/

/-- `MAX_ACTIVE_METHODS_PER_TEACHER` -/
def maxActiveMethodsPerTeacher : Nat := 10

/-- The argument of `createPaymentMethod`. -/
structure CreatePaymentMethod where
  teacherAccountId : RowId
  phoneRaw : String
  bankLabel : String
  isDefault : Option Bool
  deriving DecidableEq

def existingMethod (rows : List PaymentMethod) (teacherAccountId : RowId)
    (phoneE164 bankLabel : String) : Option PaymentMethod :=
  rows.find? fun row => row.teacherAccountId = teacherAccountId && row.phoneE164 = phoneE164 &&
    row.bankLabel = bankLabel

def revived (row : PaymentMethod) (phoneE164 : String) (shouldBeDefault : Bool) : PaymentMethod :=
  { row with
    archivedAt := none
    phoneDisplay := formatPhoneRu phoneE164
    isDefault := shouldBeDefault }

def created (id : RowId) (now : Nat) (teacherAccountId : RowId) (phoneE164 bankLabel : String)
    (shouldBeDefault : Bool) : PaymentMethod where
  id := id
  teacherAccountId := teacherAccountId
  phoneE164 := phoneE164
  phoneDisplay := formatPhoneRu phoneE164
  bankLabel := bankLabel
  isDefault := shouldBeDefault
  createdAt := now
  archivedAt := none

/-- The table in which `createPaymentMethod` writes its row. -/
def cleared (rows : List PaymentMethod) (teacherAccountId : RowId) (shouldBeDefault : Bool) :
    List PaymentMethod :=
  if shouldBeDefault then clearDefault rows teacherAccountId none else rows

def createPaymentMethod (rows : List PaymentMethod) (id : RowId) (now : Nat)
    (input : CreatePaymentMethod) : MethodResult × List PaymentMethod :=
  match normalizePhoneRu input.phoneRaw with
  | none => (.failed "invalid_phone", rows)
  | some phoneE164 =>
    match validBankLabel input.bankLabel with
    | none => (.failed "invalid_bank", rows)
    | some bankLabel =>
      let activeCount := (activeMethods rows input.teacherAccountId).length
      let shouldBeDefault := input.isDefault = some true || activeCount = 0
      let ready := cleared rows input.teacherAccountId shouldBeDefault
      match existingMethod rows input.teacherAccountId phoneE164 bankLabel with
      | some row =>
        if row.active then (.ok row true, rows)
        else
          let row := revived row phoneE164 shouldBeDefault
          finish rows (updateRow ready row) (.ok row true)
      | none =>
        if maxActiveMethodsPerTeacher ≤ activeCount then (.failed "limit_reached", rows)
        else
          let row := created id now input.teacherAccountId phoneE164 bankLabel shouldBeDefault
          finish rows (insertRow ready row) (.ok row false)

/-- The argument of `updatePaymentMethod`. -/
structure UpdatePaymentMethod where
  teacherAccountId : RowId
  methodId : RowId
  phoneRaw : Option String
  bankLabel : Option String
  isDefault : Option Bool
  restore : Bool
  deriving DecidableEq

def edited (row : PaymentMethod) (input : UpdatePaymentMethod)
    (phoneE164 bankLabel : Option String) : PaymentMethod :=
  { row with
    phoneE164 := phoneE164.getD row.phoneE164
    phoneDisplay := (phoneE164.map formatPhoneRu).getD row.phoneDisplay
    bankLabel := bankLabel.getD row.bankLabel
    isDefault := input.isDefault.getD row.isDefault
    archivedAt := if input.restore then none else row.archivedAt }

/-- The table in which `updatePaymentMethod` writes its row. -/
def readied (rows : List PaymentMethod) (input : UpdatePaymentMethod) : List PaymentMethod :=
  if input.isDefault = some true then
    clearDefault rows input.teacherAccountId (some input.methodId)
  else rows

/-- The transaction of `updatePaymentMethod`.  An update that sets nothing leaves the row
as it is. -/
def updateInTx (rows : List PaymentMethod) (input : UpdatePaymentMethod)
    (phoneE164 bankLabel : Option String) : MethodResult × List PaymentMethod :=
  match (get PaymentMethod.id rows input.methodId).filter fun row =>
      row.teacherAccountId = input.teacherAccountId with
  | none => (.failed "not_found", rows)
  | some row =>
    let row := edited row input phoneE164 bankLabel
    finish rows (updateRow (readied rows input) row) (.ok row false)

def updatePaymentMethod (rows : List PaymentMethod) (input : UpdatePaymentMethod) :
    MethodResult × List PaymentMethod :=
  match input.phoneRaw.map normalizePhoneRu with
  | some none => (.failed "invalid_phone", rows)
  | phone =>
    match input.bankLabel.map validBankLabel with
    | some none => (.failed "invalid_bank", rows)
    | bank => updateInTx rows input phone.join bank.join

def oldestActive (rows : List PaymentMethod) (teacherAccountId : RowId) : Option PaymentMethod :=
  (activeMethods rows teacherAccountId).argmin PaymentMethod.createdAt

def promote (rows : List PaymentMethod) (teacherAccountId : RowId) : Option (List PaymentMethod) :=
  match oldestActive rows teacherAccountId with
  | none => some rows
  | some next => updateRow rows { next with isDefault := true }

def archivePaymentMethod (rows : List PaymentMethod) (now : Nat)
    (teacherAccountId methodId : RowId) : MethodResult × List PaymentMethod :=
  match (get PaymentMethod.id rows methodId).filter
      (PaymentMethod.activeOf teacherAccountId) with
  | none => (.failed "not_found", rows)
  | some row =>
    let archived := updateRow rows { row with archivedAt := some now, isDefault := false }
    let after :=
      if row.isDefault then archived.bind fun rows => promote rows teacherAccountId
      else archived
    finish rows after .archived

inductive MethodStep where
  | create (id : RowId) (now : Nat) (input : CreatePaymentMethod)
  | update (input : UpdatePaymentMethod)
  | archive (now : Nat) (teacherAccountId methodId : RowId)
  deriving DecidableEq

def MethodStep.apply (rows : List PaymentMethod) : MethodStep -> List PaymentMethod
  | .create id now input => (createPaymentMethod rows id now input).2
  | .update input => (updatePaymentMethod rows input).2
  | .archive now teacherAccountId methodId =>
    (archivePaymentMethod rows now teacherAccountId methodId).2

end Methods

end LevelChannel
